import CrossGen.Digest.Sha256
import CrossGen.Shell.Utility.Basic
import CrossGen.Text.Lines

/-!
# Utilities that filter

Programs that print what they read, or a part or an account of it.
-/

namespace CrossGen.Shell

/-- Passes on what a descriptor leads to as it comes. -/
def passOn (descriptor : Nat) (put : String → Run Unit) : Nat → Run (Except IoError Unit)
  | 0 => return .ok ()
  | n + 1 => do
    match ← readSome descriptor blockSize with
    | .error e => return .error e
    | .ok "" => return .ok ()
    | .ok text =>
      put text
      passOn descriptor put n

/-- Lets a descriptor of its own lead to what an operand names, and answers it. -/
def openOperand (name : String) : Run (Except IoError Nat) := do
  if name = "-" then return .ok 0
  match ← openPath name .read with
  | .error e => return .error e
  | .ok number =>
    let descriptor := ownDescriptor number
    Run.update fun session => session.direct descriptor number
    return .ok descriptor

/-- The lines of a text, each with a number in front unless it is left out. -/
def numbered (skipsEmpty : Bool) (start : Nat) (lines : List String) : Nat × List String :=
  let (count, done) := lines.foldl (fun (count, done) line =>
    if skipsEmpty && line.isEmpty then (count, line :: done)
    else
      let digits := toString count
      (count + 1, ("".pushn ' ' (6 - digits.length) ++ digits ++ "\t" ++ line) :: done))
    (start, ([] : List String))
  (count, done.reverse)

/-- Copies files or its input to its output. -/
def concatenate : Utility :=
  withOptions "nbsEu" "" [("--number", 'n'), ("--show-ends", 'E')] fun choices operands => do
    let plain := !(choices.has 'n' || choices.has 'b' || choices.has 's' || choices.has 'E')
    if ((← Run.session).file? 1).isNone then
      report ("standard output: " ++ reason badDescriptor)
      return 1
    let mut status := 0
    let mut next := 1
    for name in orInput operands do
      if (← Run.session).unwritten.isSome then return 1
      match ← openOperand name with
      | .error e =>
        report (shown name ++ ": " ++ reason e)
        status := 1
      | .ok descriptor =>
        let outcome ←
          if plain then passOn descriptor sayNow mostReads
          else
            match ← readAll descriptor with
            | .error e => pure (Except.error e)
            | .ok text =>
              let lines := linesOf text
              let lines := if choices.has 's' then squeeze false lines else lines
              let lines := if choices.has 'E' then markEnds text lines else lines
              let (count, lines) :=
                if choices.has 'n' || choices.has 'b' then numbered (choices.has 'b') next lines
                else (next, lines)
              next := count
              sayNow (joinLike text lines)
              pure (.ok ())
        if let .error e := outcome then
          report (shown name ++ ": " ++ reason e)
          status := 1
    if (orInput operands).contains "-" && ((← Run.session).file? 0).isNone then
      report ("closing standard input: " ++ reason badDescriptor)
    return status
where
  /-- The lines of which no two empty ones follow each other. -/
  squeeze (afterEmpty : Bool) : List String → List String
    | [] => []
    | line :: lines =>
      if line.isEmpty && afterEmpty then squeeze true lines
      else line :: squeeze line.isEmpty lines
  /-- Lines with a mark at each of their ends. -/
  markEnds (text : String) (lines : List String) : List String :=
    if text.endsWith "\n" then lines.map (· ++ "$")
    else lines.dropLast.map (· ++ "$") ++ lines.getLast?.toList
  /-- Lines that end if those of the given text do. -/
  joinLike (text : String) (lines : List String) : String :=
    if text.endsWith "\n" then unlines lines else "\n".intercalate lines

/-- Reads from a descriptor until there are enough lines. -/
def readLinesUpTo (descriptor most : Nat) (before : String) : Nat → Run (Except IoError String)
  | 0 => return .ok before
  | n + 1 => do
    if most ≤ before.toList.count '\n' then return .ok before
    match ← readSome descriptor blockSize with
    | .error e => return .error e
    | .ok "" => return .ok before
    | .ok text => readLinesUpTo descriptor most (before ++ text) n

/-- The first lines of a text with their ends. -/
def firstLines (most : Nat) (text : String) : String :=
  let rec go (left : Nat) (done : List Char) : List Char → List Char
    | [] => done.reverse
    | c :: cs =>
      if left = 0 then done.reverse
      else go (if c = '\n' then left - 1 else left) (c :: done) cs
  String.ofList (go most [] text.toList)

/-- How much of a text is wanted: so much of one end, or all but so much of the other. -/
structure Extract where
  count : Nat
  isRest : Bool

/-- Reads a count, which a sign may turn round. -/
def Extract.read? (sign : Char) (text : String) : Option Extract :=
  match text.toList with
  | c :: cs =>
    if c = sign then ((String.ofList cs).toNat?).map fun n => ⟨n, true⟩
    else
      let digits := if c = '-' || c = '+' then String.ofList cs else text
      (digits.toNat?).map fun n => ⟨n, false⟩
  | [] => none

/-- The first part of a text. -/
def Extract.ofStart (extract : Extract) (inBytes : Bool) (text : String) : String :=
  if inBytes then
    String.ofList (text.toList.take
      (if extract.isRest then text.length - extract.count else extract.count))
  else
    let lines := linesOf text
    firstLines (if extract.isRest then lines.length - extract.count else extract.count) text

/-- The last part of a text. -/
def Extract.ofEnd (extract : Extract) (inBytes : Bool) (text : String) : String :=
  let size := if inBytes then text.length else (linesOf text).length
  let skipped := if extract.isRest then extract.count - 1 else size - extract.count
  if inBytes then String.ofList (text.toList.drop skipped)
  else String.ofList (text.toList.drop (firstLines skipped text).length)

/-- Old options such as `-3` in the form of new ones. -/
def modernCount : List String → List String
  | [] => []
  | arg :: args =>
    match arg.toList with
    | '-' :: c :: cs =>
      if c.isDigit && cs.all Char.isDigit then "-n" :: String.ofList (c :: cs) :: args
      else arg :: args
    | _ => arg :: args

/-- Prints the first or the last part of files or of its input. -/
def printPart (fromStart : Bool) : Utility := fun args =>
  withOptions "qvf" "nc"
    [("--lines", 'n'), ("--bytes", 'c'), ("--quiet", 'q'), ("--verbose", 'v')]
    (fun choices operands => do
      let inBytes := choices.has 'c'
      let text := ((choices.argument? 'c').orElse fun _ => choices.argument? 'n').getD "10"
      match Extract.read? (if fromStart then '-' else '+') text with
      | none =>
        report ("invalid number of " ++ (if inBytes then "bytes" else "lines") ++ ": " ++
          inMarks text)
        return 1
      | some extract =>
        let isNamed := (1 < operands.length || choices.has 'v') && !choices.has 'q'
        let mut status := 0
        let mut isFirst := true
        for name in orInput operands do
          match ← openOperand name with
          | .error e =>
            report ("cannot open " ++ inQuotes name ++ " for reading: " ++ reason e)
            status := 1
          | .ok descriptor =>
            if isNamed then
              say ((if isFirst then "" else "\n") ++ "==> " ++
                (if name = "-" then "standard input" else name) ++ " <==\n")
            isFirst := false
            let content ←
              if fromStart && !inBytes && !extract.isRest then
                readLinesUpTo descriptor extract.count "" mostReads
              else readAll descriptor
            match content with
            | .error e =>
              report ("error reading " ++ inQuotes name ++ ": " ++ reason e)
              status := 1
            | .ok text =>
              say (if fromStart then extract.ofStart inBytes text else extract.ofEnd inBytes text)
        return status)
    (modernCount args)

/-- The counts of a text: lines, words, characters, bytes, and the length of the longest line. -/
def countsOf (text : String) : List (Char × Nat) :=
  let isBlank (c : Char) : Bool := " \t\n\x0b\x0c\r".toList.contains c
  let words := (text.toList.foldl (fun (count, inside) c =>
    if isBlank c then (count, false) else (if inside then count else count + 1, true))
    (0, false)).1
  let longest := ((linesOf text).map String.length).foldl max 0
  [('l', text.toList.count '\n'), ('w', words), ('m', text.length), ('c', text.length),
    ('L', longest)]

/-- Counts the lines, words and bytes of files or of its input. -/
def countContent : Utility :=
  withOptions "lwcmL" ""
    [("--lines", 'l'), ("--words", 'w'), ("--bytes", 'c'), ("--chars", 'm')]
    fun choices operands => do
      let letters := "lwmcL".toList.filter fun letter =>
        if choices.list.isEmpty then "lwc".toList.contains letter else choices.has letter
      let (here, files) := ((← Run.session).directory, (← Run.world).files)
      let sizes := (orInput operands).map fun name =>
        match if name = "-" then .error .notFound else files.read here (hostPath name) with
        | .ok content => content.size
        | .error _ => 0
      let isOpen := (orInput operands).any fun name =>
        name = "-" || !files.isFile here (hostPath name) && (files.locate here (hostPath name)).isOk
      let inputSize ← if operands.isEmpty then sizeOfInput else pure none
      let isOpen := isOpen && inputSize.isNone
      let width :=
        if operands.length ≤ 1 && letters.length = 1 then 1
        else max (toString (sizes.foldl (· + ·) (inputSize.getD 0))).length (if isOpen then 7 else 1)
      let row (counts : List Nat) (name : String) : Run Unit := do
        let texts := counts.map fun n =>
          let digits := toString n
          "".pushn ' ' (width - digits.length) ++ digits
        sayNow (" ".intercalate texts ++ (if name.isEmpty then "" else " " ++ name) ++ "\n")
      let mut status := 0
      let mut totals := letters.map fun _ => 0
      for name in orInput operands do
        match ← openOperand name with
        | .error e =>
          report (if name.isEmpty then "invalid zero-length file name"
            else shown name ++ ": " ++ reason e)
          status := 1
        | .ok descriptor =>
          let content ← readAll descriptor
          if let .error e := content then
            report (shown name ++ ": " ++ reason e)
            status := 1
          let counts := ((countsOf (content.toOption.getD "")).filter fun entry =>
            letters.contains entry.1).map Prod.snd
          totals := List.zipWith (· + ·) totals counts
          row counts (if operands.isEmpty then "" else name)
      if 1 < operands.length then row totals "total"
      return status
where
  /-- The size of the input, if it is a file. -/
  sizeOfInput : Run (Option Nat) := do
    match ← openFile? 0 with
    | some (_, file) =>
      match file.target with
      | .file loc =>
        return match (← Run.world).files.node? loc with
          | some (.file content _) => some content.size
          | _ => none
      | _ => return none
    | none => return none

/-- The content of all operands of a utility together. -/
def joinedContent (operands : List String) : Run (String × Nat) := do
  let mut status := 0
  let mut all := ""
  for name in orInput operands do
    match ← contentOf name with
    | .ok text => all := all ++ text
    | .error e =>
      report (shown name ++ ": " ++ reason e)
      status := 1
  return (all, status)

def storeInput : Utility :=
  withOptions "ai" "" [("--append", 'a')] fun choices operands => do
    let mut status := 0
    let mut numbers : List (String × Nat) := []
    for name in operands do
      match ← openPath name (if choices.has 'a' then .append else .write) with
      | .ok number => numbers := numbers ++ [(name, number)]
      | .error e =>
        report (shown name ++ ": " ++ reason e)
        status := 1
    let targets := numbers
    let lose (name : String) (e : IoError) : Run Unit := do
      report (name ++ ": " ++ reason e)
      Run.update fun session => { session with unwritten := some e }
    let put (text : String) : Run Unit := do
      if (← Run.session).unwritten.isNone then
        if let .error e ← write 1 text then lose "'standard output'" e
      for (name, number) in targets do
        if let some file := (← Run.world).openFiles[number]? then
          if let .error e ← writeFile number file text then lose (shown name) e
    match ← passOn 0 put mostReads with
    | .ok () => return status
    | .error e =>
      report ("read error: " ++ reason e)
      if e = badDescriptor then report ("standard input: " ++ reason e)
      return 1

/-- Prints the lines of files or of its input in reverse order. -/
def reverseLines : Utility :=
  withOptions "" "" [] fun _ operands => do
    let (text, status) ← joinedContent operands
    say (String.join (Text.lines text).reverse)
    return status

def printDigests : Utility :=
  withOptions "bt" "" [] fun _ operands => do
    forOperands (fun name => do
      match ← contentOf name with
      | .ok text =>
        say (Digest.sha256 (Text.octetBytes text) ++ "  " ++ name ++ "\n")
        return 0
      | .error e =>
        report (shown name ++ ": " ++ reason e)
        return 1) (orInput operands)

end CrossGen.Shell
