import CrossGen.Shell.Descriptor

/-!
# Output and messages

What commands say on their standard output, and how the shell itself complains.
-/

namespace CrossGen.Shell

/-- Writes the output that has been held back. That it could not be written is noted. -/
def flush : Run Unit := do
  let text := (← Run.session).waiting
  unless text.isEmpty do
    Run.update fun session => { session with waiting := "" }
    match ← write 1 text with
    | .ok () => pure ()
    | .error e => Run.update fun session => { session with unwritten := some e }

/-- The size from which on output is not held back any more. -/
def mostHeld : Nat := 4096

/-- Adds a text to the standard output, which is held back until there is much of it. -/
def say (text : String) : Run Unit := do
  Run.update fun session => { session with waiting := session.waiting ++ text }
  if mostHeld ≤ (← Run.session).waiting.length then flush

/-- Writes a text to the standard output at once. -/
def sayNow (text : String) : Run Unit := do
  say text
  flush

/-- What messages of the shell begin with: its name, the line, and the command that is carried out.
-/
def lead (session : Session) : String :=
  session.name ++ ": " ++ toString session.line ++ ": " ++
    (match session.speaker with
    | some command => command ++ ": "
    | none => "")

/-- Writes a message of the shell. -/
def complain (text : String) : Run Unit := do
  warn (lead (← Run.session) ++ text ++ "\n")

/-- Ends a command with a message. -/
def failWith {α : Type} (text : String) : Run α := do
  complain text
  throw (.failed 2)

/-- The description of an error. -/
def reason : IoError → String
  | .os code => IoError.description code
  | .other text => text

/-- Why a file cannot be made, in the words of the shell. -/
def creationProblem : IoError → String
  | .os 2 | .os 20 => "Directory nonexistent"
  | e => reason e

/-- Why a file cannot be opened, in the words of the shell. -/
def openingProblem : IoError → String
  | .os 2 | .os 20 => "No such file"
  | e => reason e

/-- Why a program cannot be started, in the words of the shell. -/
def startingProblem : IoError → String
  | .os 2 | .os 20 => "not found"
  | e => reason e

/-- Sets the value of a variable, unless it may not change. -/
def setVariable (name value : String) : Run Unit := do
  if ((← Run.session).held? name).any Variable.readonly then
    failWith (name ++ ": is read only")
  Run.update fun session =>
    let session := session.assign name value
    if name = "OPTIND" then { session with scan := ⟨(value.toNat?).getD 1, 0⟩ } else session

/-- The number that a text of decimal digits stands for, with blanks around it and a sign. -/
def decimal? (text : String) : Option Int :=
  let isBlank (c : Char) : Bool := " \t\n\x0b\x0c\r".toList.contains c
  let cs := (text.toList.dropWhile isBlank).reverse.dropWhile isBlank |>.reverse
  let (isNegative, digits) := match cs with
    | '-' :: cs => (true, cs)
    | '+' :: cs => (false, cs)
    | cs => (false, cs)
  if digits.isEmpty || !digits.all Char.isDigit then none
  else
    let n : Int := (String.ofList digits).toNat?.getD 0
    some (if isNegative then -n else n)

/-- The natural number that an argument stands for, which has to be one. -/
def wantNumber (text : String) : Run Nat := do
  match decimal? text with
  | some (.ofNat n) => return n
  | _ => failWith ("Illegal number: " ++ text)

end CrossGen.Shell
