import CrossGen.Shell.Pattern
import CrossGen.Shell.Utility.Filtering

/-!
# Utilities that arrange

Programs that put lines in another order, leave some of them out, or take them apart.
-/

namespace CrossGen.Shell

/-- The part of a line that is compared: from one field on, up to another one if there is one. -/
structure SortKey where
  first : Nat
  last : Option Nat
  letters : List Char

/-- Reads a key such as `2,3n`. -/
def SortKey.read? (text : String) : Option SortKey :=
  let part (text : String) : Option (Nat × List Char) :=
    let digits := text.toList.takeWhile Char.isDigit
    let rest := text.toList.drop digits.length
    let rest := match rest with
      | '.' :: cs => cs.dropWhile Char.isDigit
      | cs => cs
    ((String.ofList digits).toNat?).map fun n => (n, rest)
  match Text.cutAt? ',' text with
  | none => (part text).map fun (n, letters) => ⟨n, none, letters⟩
  | some (first, last) => do
    let (n, own) ← part first
    let (m, others) ← part last
    return ⟨n, some m, own ++ others⟩

/-- The fields of a line, which blanks in front belong to if nothing else separates them. -/
def sortFields (separator : Option Char) (line : String) : List String :=
  match separator with
  | some c => Text.fields c line
  | none =>
    let rec go (field : List Char) (inside : Bool) : List Char → List String
      | [] => if field.isEmpty then [] else [String.ofList field.reverse]
      | c :: cs =>
        let isBlank := c = ' ' || c = '\t'
        if isBlank && inside then String.ofList field.reverse :: go [c] false cs
        else go (c :: field) (!isBlank) cs
    go [] false line.toList

/-- The part of a line that a key compares. -/
def SortKey.of (separator : Option Char) (key : SortKey) (line : String) : String :=
  let fields := (sortFields separator line).drop (key.first - 1)
  let fields := match key.last with
    | some last => fields.take (last + 1 - key.first)
    | none => fields
  (match separator with
  | some c => String.singleton c
  | none => "").intercalate fields

/-- The number that a text begins with, in thousandths, in which blanks in front count for nothing.
-/
def leadingNumber (text : String) : Int :=
  let cs := text.toList.dropWhile fun c => c = ' ' || c = '\t'
  let (isNegative, cs) := match cs with
    | '-' :: cs => (true, cs)
    | cs => (false, cs)
  let whole := cs.takeWhile Char.isDigit
  let part := match cs.drop whole.length with
    | '.' :: cs => cs.takeWhile Char.isDigit
    | _ => []
  let digits := String.ofList (whole ++ (part ++ ['0', '0', '0']).take 3)
  let n : Int := (digits.toNat?).getD 0
  if isNegative then -n else n

/-- How two texts compare by the letters of options. -/
def compareTexts (letters : List Char) (a b : String) : Ordering :=
  let trim (text : String) : String :=
    if letters.contains 'b' then
      String.ofList (text.toList.dropWhile fun c => c = ' ' || c = '\t')
    else text
  let fold (text : String) : String := if letters.contains 'f' then text.toUpper else text
  let order :=
    if letters.contains 'n' || letters.contains 'g' then
      compare (leadingNumber a) (leadingNumber b)
    else compare (fold (trim a)) (fold (trim b))
  if letters.contains 'r' then order.swap else order

/-- Sorts lines. Lines that compare as equal are ordered as texts, unless their order is to stay. -/
def sortLines : Utility :=
  withOptions "rnufbgsVz" "kto"
    [("--reverse", 'r'), ("--numeric-sort", 'n'), ("--unique", 'u'), ("--key", 'k'),
      ("--field-separator", 't'), ("--output", 'o'), ("--ignore-case", 'f')]
    fun choices operands => do
      let letters := (choices.list.filter fun choice => choice.argument.isEmpty).map Choice.letter
      let separator := (choices.argument? 't').bind fun text => text.toList.head?
      let keys := (choices.list.filter fun choice => choice.letter == 'k').filterMap fun choice =>
        SortKey.read? choice.argument
      let byKeys (a b : String) : Ordering :=
        if keys.isEmpty then compareTexts letters a b
        else
          keys.foldl (fun order key =>
            if order != .eq then order
            else
              compareTexts (if key.letters.isEmpty then letters else key.letters)
                (key.of separator a) (key.of separator b)) .eq
      let inFull (a b : String) : Ordering :=
        let order := byKeys a b
        if order != .eq || choices.has 's' || choices.has 'u' then order
        else if choices.has 'r' then (compare a b).swap
        else compare a b
      let mut all : List String := []
      for name in orInput operands do
        match ← contentOf name with
        | .ok text => all := all ++ linesOf text
        | .error e =>
          report ((if e = .isDirectory then "read failed: " else "cannot read: ") ++ shown name ++
            ": " ++ reason e)
          return 2
      let sorted := all.mergeSort fun a b => inFull a b != .gt
      let rec thin : List String → List String
        | [] => []
        | line :: lines =>
          match thin lines with
          | [] => [line]
          | next :: rest => if byKeys line next == .eq then line :: rest else line :: next :: rest
      let lines := if choices.has 'u' then thin sorted else sorted
      match choices.argument? 'o' with
      | none =>
        say (unlines lines)
        return 0
      | some name =>
        let session ← Run.session
        match ← changeFiles fun files =>
          files.write session.directory (hostPath name) (Text.octetBytes (unlines lines)) with
        | .ok () => return 0
        | .error e =>
          report ("open failed: " ++ name ++ ": " ++ reason e)
          return 2

/-- Lines with the number of times that each follows itself. -/
def runsOf (same : String → String → Bool) : List String → List (String × Nat)
  | [] => []
  | line :: lines =>
    match runsOf same lines with
    | (next, count) :: rest =>
      if same line next then (line, count + 1) :: rest else (line, 1) :: (next, count) :: rest
    | [] => [(line, 1)]

/-- Prints each line once that follows itself. -/
def uniteLines : Utility :=
  withOptions "cdui" "" [("--count", 'c'), ("--repeated", 'd'), ("--unique", 'u')]
    fun choices operands => do
      let same (a b : String) : Bool :=
        if choices.has 'i' then a.toUpper == b.toUpper else a == b
      match ← contentOf (operands.headD "-") with
      | .error e =>
        report (shown (operands.headD "-") ++ ": " ++ reason e)
        return 1
      | .ok text =>
        let lines := (runsOf same (linesOf text)).filter fun (_, count) =>
          (!choices.has 'd' || 1 < count) && (!choices.has 'u' || count = 1)
        say (unlines (lines.map fun (line, count) =>
          if choices.has 'c' then
            let digits := toString count
            "".pushn ' ' (7 - digits.length) ++ digits ++ " " ++ line
          else line))
        return 0

/-- Reads ranges of places such as `1,3-5,7-`. -/
def readRanges? (text : String) : Option (List (Nat × Option Nat)) :=
  (Text.fields ',' text).mapM fun (part : String) =>
    match Text.cutAt? '-' part with
    | none => (part.toNat?).map fun n => (n, some n)
    | some (first, last) => do
      let n ← if first.isEmpty then some 1 else first.toNat?
      let m ← if last.isEmpty then some none else (last.toNat?).map some
      if first.isEmpty && last.isEmpty then none else return (n, m)

def inRanges (ranges : List (Nat × Option Nat)) (place : Nat) : Bool :=
  ranges.any fun (first, last) => first ≤ place && last.all (place ≤ ·)

/-- The elements whose places are in ranges. -/
def pick {α : Type} (ranges : List (Nat × Option Nat)) (elements : List α) : List α :=
  ((elements.zip (List.range elements.length)).filter fun entry =>
    inRanges ranges (entry.2 + 1)).map Prod.fst

/-- Prints parts of each line. -/
def cutLinesApart : Utility :=
  withOptions "sn" "dfcb" [("--delimiter", 'd'), ("--fields", 'f'), ("--characters", 'c'),
      ("--bytes", 'b'), ("--only-delimited", 's')]
    fun choices operands => do
      let separator := ((choices.argument? 'd').bind fun text => text.toList.head?).getD '\t'
      let byPlace := (choices.argument? 'c').orElse fun _ => choices.argument? 'b'
      let list := byPlace.orElse fun _ => choices.argument? 'f'
      match list.map readRanges? with
      | none =>
        reportMisuse "you must specify a list of bytes, characters, or fields"
        return 1
      | some none =>
        reportMisuse ((if byPlace.isSome then "invalid byte/character position "
          else "invalid field value ") ++ inMarks (list.getD ""))
        return 1
      | some (some ranges) =>
        let cut (line : String) : Option String :=
          if byPlace.isSome then some (String.ofList (pick ranges line.toList))
          else if !line.toList.contains separator then
            if choices.has 's' then none else some line
          else
            some ((String.singleton separator).intercalate (pick ranges (Text.fields separator line)))
        let (text, status) ← joinedContent operands
        say (unlines ((linesOf text).filterMap cut))
        return status

def charRange (first last : Char) : List Char :=
  (List.range (last.toNat + 1 - first.toNat)).map fun n => Char.ofNat (first.toNat + n)

/-- The characters that a set of `tr` names. -/
def readSet : Nat → List Char → List Char
  | 0, _ => []
  | _, [] => []
  | n + 1, '\\' :: cs =>
    let (c, rest) := readEscape cs
    match rest with
    | '-' :: last :: rest' => charRange c last ++ readSet n rest'
    | rest => c :: readSet n rest
  | n + 1, '[' :: ':' :: cs =>
    let name := cs.takeWhile (· != ':')
    match Pattern.classRanges? (String.ofList name), cs.drop name.length with
    | some ranges, ':' :: ']' :: rest =>
      ranges.flatMap (fun (first, last) => charRange first last) ++ readSet n rest
    | _, _ => '[' :: readSet n (':' :: cs)
  | n + 1, first :: '-' :: last :: cs => charRange first last ++ readSet n cs
  | n + 1, c :: cs => c :: readSet n cs

/-- Replaces, removes or unites characters of its input. -/
def translateInput : Utility :=
  withFirstOptions "dscC" "" [("--delete", 'd'), ("--squeeze-repeats", 's'), ("--complement", 'c')]
    fun choices operands => do
      let set (text : String) : List Char := readSet (text.length + 1) text.toList
      let deletes := choices.has 'd'
      let squeezes := choices.has 's'
      let wanted := if deletes == squeezes then 2 else 1
      match operands with
      | [] =>
        reportMisuse "missing operand"
        return 1
      | first :: rest =>
        if rest.isEmpty && wanted = 2 then
          report ("missing operand after " ++ inMarks first)
          warn ((if deletes then
              "Two strings must be given when both deleting and squeezing repeats.\n"
            else "Two strings must be given when translating.\n") ++
            "Try '" ++ (← Run.session).name ++ " --help' for more information.\n")
          return 1
        let allowed := if deletes && !squeezes then 1 else 2
        if let some extra := operands[allowed]? then
          report ("extra operand " ++ inMarks extra)
          if allowed = 1 then
            warn "Only one string may be given when deleting without squeezing repeats.\n"
          warn ("Try '" ++ (← Run.session).name ++ " --help' for more information.\n")
          return 1
        let own := set first
        let isOwn (c : Char) : Bool :=
          own.contains c != (choices.has 'c' || choices.has 'C')
        let others := set (rest.headD "")
        let replace (c : Char) : Char :=
          if !isOwn c then c
          else if choices.has 'c' || choices.has 'C' then others.getLastD c
          else others.getD (min (own.idxOf c) (others.length - 1)) c
        let isUnited (c : Char) : Bool :=
          if rest.isEmpty then isOwn c else others.contains c
        let rec unite (last : Option Char) : List Char → List Char
          | [] => []
          | c :: cs => if last = some c && isUnited c then unite last cs else c :: unite (some c) cs
        let change (cs : List Char) : List Char :=
          let cs := if deletes then cs.filter (!isOwn ·) else cs
          let cs := if deletes || rest.isEmpty then cs else cs.map replace
          if squeezes then unite none cs else cs
        match ← readAll 0 with
        | .ok text =>
          say (String.ofList (change text.toList))
          return 0
        | .error e =>
          report ("read error: " ++ reason e)
          return 1

end CrossGen.Shell
