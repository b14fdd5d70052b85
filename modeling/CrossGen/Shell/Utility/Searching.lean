import CrossGen.Shell.Expression.Reading
import CrossGen.Shell.Utility.Filtering

/-!
# Utilities that search texts

Programs that print the lines which regular expressions fit, and that evaluate expressions of their
arguments.
-/

namespace CrossGen.Shell

/-- What `grep` looks for, and what it does with what it finds. -/
structure Hunt where
  choices : Choices
  expressions : List Expression
  named : Bool

namespace Hunt

/-- The first stretch of a line that is looked for, from a place on. -/
def find? (hunt : Hunt) (line : String) (place : Nat) : Option (Nat × Nat) :=
  let subject : Expression.Subject := ⟨line.toList.toArray, hunt.choices.has 'i'⟩
  hunt.expressions.foldl (fun best expression =>
    match expression.search subject place, best with
    | some (first, progress), none => some (first, progress.place)
    | some (first, progress), some (start, stop) =>
      if first < start || first = start && stop < progress.place then some (first, progress.place)
      else best
    | none, _ => best) none

/-- Whether a line is one of those that are looked for. -/
def fits (hunt : Hunt) (line : String) : Bool :=
  (hunt.find? line 0).isSome != hunt.choices.has 'v'

/-- The stretches of a line that are looked for. -/
def parts (hunt : Hunt) (line : String) (place : Nat) : Nat → List String
  | 0 => []
  | n + 1 =>
    match hunt.find? line place with
    | none => []
    | some (first, last) =>
      if first = last then
        if line.length ≤ first then [] else hunt.parts line (first + 1) n
      else
        String.ofList ((line.toList.drop first).take (last - first)) :: hunt.parts line last n

/-- Looks through a content, and answers whether anything was found. -/
def lookThrough (hunt : Hunt) (name content : String) : Run Bool := do
  let lines := linesOf content
  let numbered := (lines.zip (List.range lines.length)).filter fun entry => hunt.fits entry.1
  let numbered := match (hunt.choices.argument? 'm').bind String.toNat? with
    | some most => numbered.take most
    | none => numbered
  let lead := if hunt.named then name ++ ":" else ""
  if hunt.choices.has 'q' then pure ()
  else if hunt.choices.has 'l' then
    unless numbered.isEmpty do say (name ++ "\n")
  else if hunt.choices.has 'L' then
    if numbered.isEmpty then say (name ++ "\n")
  else if hunt.choices.has 'c' then say (lead ++ toString numbered.length ++ "\n")
  else
    for (line, number) in numbered do
      let lead := lead ++ (if hunt.choices.has 'n' then toString (number + 1) ++ ":" else "")
      if hunt.choices.has 'o' then
        for part in hunt.parts line 0 (line.length + 1) do say (lead ++ part ++ "\n")
      else say (lead ++ line ++ "\n")
  return !numbered.isEmpty

end Hunt

/-- Reads the expression that `grep` is given in the way that its options ask for. -/
def huntedExpression (choices : Choices) (text : String) :
    Except Expression.Mistake Expression := do
  let own ←
    if choices.has 'F' then pure (Expression.ofText text)
    else Expression.read (choices.has 'E' || choices.has 'P') text
  return if choices.has 'x' then .sequence .lineStart (.sequence own .lineEnd)
    else if choices.has 'w' then .sequence .wordStart (.sequence own .wordEnd)
    else own

/-- Prints the lines of files or of its input that regular expressions fit. -/
def searchLines (called : List Char) : Utility := fun args =>
  withOptions "ivcnqsxwloEFGPhHLraIz" "em"
    [("--ignore-case", 'i'), ("--invert-match", 'v'), ("--count", 'c'), ("--line-number", 'n'),
      ("--quiet", 'q'), ("--silent", 'q'), ("--no-messages", 's'), ("--line-regexp", 'x'),
      ("--word-regexp", 'w'), ("--files-with-matches", 'l'), ("--only-matching", 'o'),
      ("--extended-regexp", 'E'), ("--fixed-strings", 'F'), ("--regexp", 'e'), ("--color", 'a')]
    (fun choices operands => do
      let choices : Choices := ⟨choices.list ++ called.map fun letter => ⟨letter, ""⟩⟩
      let own := (choices.list.filter fun choice => choice.letter == 'e').map Choice.argument
      let (texts, names) :=
        if own.isEmpty then (operands.take 1, operands.drop 1) else (own, operands)
      if texts.isEmpty then
        let name := (← Run.session).name
        warn ("Usage: " ++ name ++ " [OPTION]... PATTERNS [FILE]...\nTry '" ++ name ++
          " --help' for more information.\n")
        return 2
      match (texts.flatMap (Text.fields '\n')).mapM (huntedExpression choices) with
      | .error mistake =>
        report mistake.message
        return 2
      | .ok expressions =>
        let named := (1 < names.length || choices.has 'H') && !choices.has 'h'
        let hunt : Hunt := ⟨choices, expressions, named⟩
        let mut isFound := false
        let mut isWrong := false
        for name in orInput names do
          let shownName := if name = "-" then "(standard input)" else name
          match ← contentOf name with
          | .error e =>
            isWrong := true
            unless choices.has 's' do
              report (name ++ ": " ++ reason e)
          | .ok content =>
            if ← hunt.lookThrough shownName content then isFound := true
        if isFound && choices.has 'q' then return 0
        return if isWrong then 2 else if isFound then 0 else 1)
    args

/-- A value in the expressions of `expr`: a text, which may stand for a number. -/
abbrev Value :=
  String

/-- Whether a value counts as false. -/
def isVoid (value : Value) : Bool :=
  value.isEmpty || decimalText? value == some 0
where
  decimalText? (value : Value) : Option Int :=
    match value.toList with
    | '-' :: cs => if cs.all Char.isDigit then ((String.ofList cs).toNat?).map fun n => -n else none
    | cs => if cs.all Char.isDigit then (value.toNat?).map fun n => (n : Int) else none

/-- Why an expression of `expr` has no value. -/
inductive ValueFault where
  | missing (after : String)
  | unexpected (text : String)
  | notNumber
  | divisionByZero
  | unclosed
  | expression (mistake : Expression.Mistake)

def ValueFault.message : ValueFault → String
  | missing after => "syntax error: missing argument after " ++ inMarks after
  | unexpected text => "syntax error: unexpected argument " ++ inMarks text
  | notNumber => "non-integer argument"
  | divisionByZero => "division by zero"
  | unclosed => "syntax error: expecting ')'"
  | expression mistake => mistake.message

def joinValues (sign : String) (a b : Value) : Except ValueFault Value := do
  let truth (b : Bool) : Value := if b then "1" else "0"
  let numbers? : Option (Int × Int) := do
    let n ← isVoid.decimalText? a
    let m ← isVoid.decimalText? b
    if a.isEmpty || b.isEmpty then none else return (n, m)
  let order := match numbers? with
    | some (n, m) => compare n m
    | none => compare a b
  match sign with
  | "|" => return if !isVoid a then a else if !isVoid b then b else "0"
  | "&" => return if isVoid a || isVoid b then "0" else a
  | "=" | "==" => return truth (order == .eq)
  | "!=" => return truth (order != .eq)
  | "<" => return truth (order == .lt)
  | "<=" => return truth (order != .gt)
  | ">" => return truth (order == .gt)
  | ">=" => return truth (order != .lt)
  | ":" =>
    match Expression.read false b with
    | .error mistake => throw (.expression mistake)
    | .ok expression =>
      let subject : Expression.Subject := ⟨a.toList.toArray, false⟩
      let hasGroup := (b.splitOn "\\(").length != 1
      match Expression.longestAt subject expression 0 with
      | none => return if hasGroup then "" else "0"
      | some progress =>
        if hasGroup then
          match progress.group? 1 with
          | some (first, last) => return String.ofList (subject.part first last)
          | none => return ""
        else return toString progress.place
  | _ =>
    match numbers? with
    | none => throw .notNumber
    | some (n, m) =>
      match sign with
      | "+" => return toString (n + m)
      | "-" => return toString (n - m)
      | "*" => return toString (n * m)
      | _ =>
        if m = 0 then throw .divisionByZero
        return toString (if sign = "/" then n.tdiv m else n.tmod m)

/-- How strongly a sign binds. -/
def bindingOf? : String → Option Nat
  | "|" => some 0
  | "&" => some 1
  | "<" | "<=" | "=" | "==" | "!=" | ">=" | ">" => some 2
  | "+" | "-" => some 3
  | "*" | "/" | "%" => some 4
  | ":" => some 5
  | _ => none

mutual

/-- Evaluates a single value at the start of operands. The text is what stands before them. -/
def readTerm (before : String) : Nat → List String → Except ValueFault (Value × List String)
  | 0, _ | _, [] => .error (.missing before)
  | n + 1, text :: rest =>
    match text, rest with
    | "(", _ => do
      let (value, rest) ← readTerms "(" 0 n rest
      match rest with
      | ")" :: rest => return (value, rest)
      | _ => throw .unclosed
    | "+", word :: rest => .ok (word, rest)
    | "length", word :: rest => .ok (toString word.length, rest)
    | "match", a :: b :: rest => do return (← joinValues ":" a b, rest)
    | "substr", word :: place :: length :: rest =>
      let start := (place.toNat?).getD 0
      .ok
        (if start = 0 then ""
        else String.ofList ((word.toList.drop (start - 1)).take ((length.toNat?).getD 0)), rest)
    | "index", word :: letters :: rest =>
      let found := word.toList.takeWhile fun c => !letters.toList.contains c
      .ok (toString (if found.length = word.length then 0 else found.length + 1), rest)
    | text, rest => .ok (text, rest)

/-- Evaluates values that are joined by signs which bind at least so strongly. -/
def readTerms (before : String) (least : Nat) :
    Nat → List String → Except ValueFault (Value × List String)
  | 0, _ => .error (.missing before)
  | n + 1, operands => do
    let (value, rest) ← readTerm before n operands
    extendTerms value least n rest

/-- Joins further values to a value. -/
def extendTerms (value : Value) (least : Nat) :
    Nat → List String → Except ValueFault (Value × List String)
  | 0, rest => .ok (value, rest)
  | _, [] => .ok (value, [])
  | n + 1, sign :: rest => do
    match bindingOf? sign with
    | none => return (value, sign :: rest)
    | some strength =>
      if strength < least then return (value, sign :: rest)
      let (other, rest) ← readTerms sign (strength + 1) n rest
      extendTerms (← joinValues sign value other) least n rest

end

/-- Evaluates an expression of its arguments. -/
def evaluateOperands : Utility := fun args => do
  let args := if args.head? = some "--" then args.tail else args
  match args with
  | [] =>
    reportMisuse "missing operand"
    return 2
  | args =>
    match readTerms "" 0 (4 * args.length + 8) args with
    | .error fault =>
      report fault.message
      return 2
    | .ok (_, extra :: _) =>
      report (ValueFault.unexpected extra).message
      return 2
    | .ok (value, []) =>
      say (value ++ "\n")
      return if isVoid value then 1 else 0

end CrossGen.Shell
