import CrossGen.Shell.Condition
import CrossGen.Shell.Utility.Basic

/-!
# Utilities that print

Programs that make their output from their arguments or from what they are started with.
-/

namespace CrossGen.Shell

/-- Splits off the options of `echo`, whose letters may be joined, and tells whether the line is to
be ended and whether escapes count. -/
def echoOptions (isEnded escapes : Bool) : List String → Bool × Bool × List String
  | [] => (isEnded, escapes, [])
  | arg :: args =>
    match arg.toList with
    | '-' :: c :: cs =>
      if (c :: cs).all fun letter => "neE".toList.contains letter then
        let escapes := (c :: cs).foldl
          (fun escapes letter => if letter = 'e' then true else if letter = 'E' then false else escapes)
          escapes
        echoOptions (isEnded && !(c :: cs).contains 'n') escapes args
      else (isEnded, escapes, arg :: args)
    | _ => (isEnded, escapes, arg :: args)

/-- Echoes its arguments, in which escapes are only replaced if that is asked for. -/
def echoPlain : Utility := fun args => do
  let (isEnded, escapes, words) := echoOptions true false args
  let text := " ".intercalate words
  let (text, stopped) := if escapes then escaped text else (text, false)
  say (if isEnded && !stopped then text ++ "\n" else text)
  return 0

def printByFormat : Utility := fun args => do
  match if args.head? = some "--" then args.tail else args with
  | [] =>
    reportMisuse "missing operand"
    return 1
  | format :: args =>
    let done := formatted format args
    say done.text
    for (arg, fault) in done.faults do report (inQuotes arg ++ ": " ++ fault.fullWords)
    if let some fault := done.fatal then report fault
    return if done.faults.isEmpty && done.fatal.isNone then 0 else 1

/-- Tests a condition. -/
def testOperands (operands : List String) : Run Nat := do
  let view : Condition.View := ⟨(← Run.world).files, (← Run.session).directory⟩
  match Condition.holds view (operands.length + 1) operands with
  | .ok outcome => return if outcome then 0 else 1
  | .error text =>
    report text
    return 2

def testInBrackets : Utility := fun operands => do
  if operands.getLast? = some "]" then testOperands operands.dropLast
  else
    report "missing ']'"
    return 2

def printPlace : Utility :=
  withOptions "LP" "" [] fun choices _ => do
    let session ← Run.session
    let here := shellPath session.directory
    let isRight (text : String) : Run Bool := do
      let files := (← Run.world).files
      return (files.locate .root (hostPath text)).toOption == some session.directory
    let place ← match session.value? "PWD" with
      | some text =>
        if choices.has 'L' && text.startsWith "/" && (← isRight text) then pure text else pure here
      | none => pure here
    say (place ++ "\n")
    return 0

def lastName (path : String) : String :=
  (Path.mk path).names.getLastD (if path.isEmpty then "" else "/")

def printLastNames : Utility :=
  withFirstOptions "az" "s" [("--suffix", 's'), ("--multiple", 'a'), ("--zero", 'z')]
    fun choices operands => do
      let stop := if choices.has 'z' then "\x00" else "\n"
      let print (ending path : String) : Run Unit := do
        let name := lastName path
        let isCut := !ending.isEmpty && name.endsWith ending && name != ending
        say ((if isCut then String.ofList (name.toList.take (name.length - ending.length)) else name)
          ++ stop)
      match operands with
      | [] =>
        reportMisuse "missing operand"
        return 1
      | path :: rest =>
        if choices.has 'a' || choices.has 's' then
          for path in operands do print ((choices.argument? 's').getD "") path
          return 0
        match rest with
        | _ :: extra :: _ =>
          reportMisuse ("extra operand " ++ inMarks extra)
          return 1
        | _ =>
          print (rest.headD "") path
          return 0

/-- A path without its last name. -/
def parentText (path : String) : String :=
  let isSeparator (c : Char) : Bool := c == '/'
  let cs := path.toList.reverse.dropWhile isSeparator
  let cs := (cs.dropWhile (!isSeparator ·)).dropWhile isSeparator
  if !cs.isEmpty then String.ofList cs.reverse
  else if path.startsWith "/" then "/"
  else "."

/-- Prints paths without their last names. -/
def printParents : Utility :=
  withFirstOptions "z" "" [("--zero", 'z')] fun choices operands => do
    if operands.isEmpty then
      reportMisuse "missing operand"
      return 1
    for path in operands do say (parentText path ++ (if choices.has 'z' then "\x00" else "\n"))
    return 0

def printVariables : Utility :=
  withFirstOptions "0" "" [("--null", '0')] fun choices operands => do
    let stop := if choices.has '0' then "\x00" else "\n"
    let session ← Run.session
    if operands.isEmpty then
      for (name, v) in session.bindings do say (name ++ "=" ++ v.value.getD "" ++ stop)
      return 0
    let mut status := 0
    for name in operands do
      match session.value? name with
      | some value => say (value ++ stop)
      | none => status := 1
    return status

/-- The millionths of a second in a text of seconds, minutes, hours or days. -/
def timeOf? (text : String) : Option Nat :=
  let cs := text.toList
  let (cs, factor) := match cs.getLast? with
    | some 's' => (cs.dropLast, 1)
    | some 'm' => (cs.dropLast, 60)
    | some 'h' => (cs.dropLast, 3600)
    | some 'd' => (cs.dropLast, 86400)
    | _ => (cs, 1)
  let whole := cs.takeWhile Char.isDigit
  let part? : Option (List Char) := match cs.drop whole.length with
    | [] => some []
    | '.' :: part => if part.all Char.isDigit then some part else none
    | _ => none
  match part? with
  | none => none
  | some part =>
    if whole.isEmpty && part.isEmpty then none
    else
      let digits := String.ofList ((part ++ List.replicate 6 '0').take 6)
      let seconds := ((String.ofList whole).toNat?).getD 0
      some ((seconds * 1000000 + (digits.toNat?).getD 0) * factor)

/-- Waits for the sum of the given times. -/
def sleepSeconds : Utility := fun args => do
  let args := if args.head? = some "--" then args.tail else args
  if args.isEmpty then
    reportMisuse "missing operand"
    return 1
  let wrong := args.filter fun text => (timeOf? text).isNone
  if wrong.isEmpty then
    Run.spend (args.foldl (fun time text => time + (timeOf? text).getD 0) 0)
    return 0
  for text in wrong do report ("invalid time interval " ++ inMarks text)
  warn ("Try '" ++ (← Run.session).name ++ " --help' for more information.\n")
  return 1

/-- Numbers from `first` on in steps. -/
def countOn (step last : Int) (first : Int) : Nat → List Int
  | 0 => []
  | n + 1 =>
    if (0 ≤ step && last < first) || (step < 0 && first < last) then []
    else first :: countOn step last (first + step) n

/-- A number with zeros in front up to a width. -/
def widened (width : Nat) (n : Int) : String :=
  let digits := toString n.natAbs
  let sign := if n < 0 then "-" else ""
  sign ++ "".pushn '0' (width - digits.length - sign.length) ++ digits

def printSequence : Utility := fun args => do
  let isNegative (arg : String) : Bool := (decimal? arg).isSome
  let options := args.takeWhile fun arg => arg.startsWith "-" && !isNegative arg
  let (separator, options, args) : String × List String × List String := match args with
    | "-s" :: text :: rest => (text, [], rest)
    | _ =>
      let joined := options.findSome? fun option =>
        if option.startsWith "-s" then some (String.ofList (option.toList.drop 2)) else none
      (joined.getD "\n", options, args.drop options.length)
  let operands := args.map fun arg => (arg, decimal? arg)
  match operands.find? fun entry => entry.2.isNone with
  | some (arg, _) =>
    reportMisuse ("invalid floating point argument: " ++ inMarks arg)
    return 1
  | none =>
    let bounds? : Option (Int × Int × Int) := match operands.map fun entry => entry.2.getD 0 with
      | [last] => some (1, 1, last)
      | [first, last] => some (first, 1, last)
      | [first, step, last] => some (first, step, last)
      | _ => none
    match bounds? with
    | none =>
      reportMisuse "missing operand"
      return 1
    | some (_, 0, _) =>
      reportMisuse "invalid Zero increment value: '0'"
      return 1
    | some (first, step, last) =>
      let numbers := countOn step last first ((last - first).natAbs + 1)
      let isWide := options.contains "-w"
      let width := if isWide then max (toString first).length (toString last).length else 0
      let texts := numbers.map (widened width)
      unless texts.isEmpty do say (separator.intercalate texts ++ "\n")
      return 0

/-- Prints a line again and again until nobody reads it any more. -/
def printForever (block : String) : Nat → Run Nat
  | 0 => return 1
  | n + 1 => do
    match ← write 1 block with
    | .ok () => Run.spend builtinTime; printForever block n
    | .error e =>
      report ("standard output: " ++ reason e)
      return 1

/-- Prints its arguments again and again. -/
def repeatWords : Utility := fun args => do
  let line := (if args.isEmpty then "y" else " ".intercalate args) ++ "\n"
  let count := max 1 (8192 / line.length)
  printForever (String.join (List.replicate count line)) mostReads

def printMachine : Utility :=
  withOptions "asnrvmpio" "" [] fun choices _ => do
    let facts : List (Char × String) :=
      [('s', "Linux"), ('n', "localhost"), ('m', "x86_64"), ('p', "x86_64"), ('i', "x86_64"),
        ('o', "GNU/Linux")]
    let shown := facts.filter fun (letter, _) => choices.has letter || choices.has 'a'
    say (" ".intercalate (if shown.isEmpty then ["Linux"] else shown.map Prod.snd) ++ "\n")
    return 0

/-- Prints the user, who may do everything. -/
def printUser : Utility :=
  withOptions "ugnGr" "" [] fun choices _ => do
    let isName := choices.has 'n'
    say (if choices.has 'u' || choices.has 'g' || choices.has 'G' then
        if isName then "root\n" else "0\n"
      else "uid=0(root) gid=0(root) groups=0(root)\n")
    return 0

end CrossGen.Shell
