import CrossGen.Shell.Builtin.Scripts
import CrossGen.Shell.Redirecting

/-!
# Simple commands

The words of a simple command are expanded, descriptors are redirected and variables are set. Then
the function, the command of the shell or the program is carried out that the first field names.
-/

namespace CrossGen.Shell

/-- A simple command whose words are expanded. The flags say whether functions are passed over, and
whether programs are looked for in the default search path. -/
structure Call where
  fields : List String
  direct : Bool
  standard : Bool

/-- The command that other commands in front of it ask for. -/
def Call.behind (session : Session) (call : Call) : Nat → Call
  | 0 => call
  | n + 1 =>
    match call.fields with
    | "command" :: args =>
      if (session.function? "command").isSome && !call.direct then call
      else
        match commandBehind? call.standard args with
        | some (standard, fields) => Call.behind session ⟨fields, true, standard⟩ n
        | none => call
    | _ => call

/-- Whether the fields so far are those of a command that marks variables. -/
def marksVariables (session : Session) (fields : List String) : Bool :=
  let call := Call.behind session ⟨fields, false, false⟩ fields.length
  call.fields.head?.any fun name => ["export", "readonly", "local"].contains name

/-- The fields of the words of a command. An assignment behind a command that marks variables is not
divided. -/
def expandCommand (go : Worker) (fields : List String) : List Word → Run (List String)
  | [] => return fields
  | word :: words => do
    let assignment :=
      if marksVariables (← Run.session) fields then Reader.assignment? word else none
    let own ← match assignment with
      | some (name, value) => do pure [name ++ "=" ++ (← expandValue (capture go) value)]
      | none => expandWord (capture go) word
    expandCommand go (fields ++ own) words

/-- Sets variables one after the other, and answers their texts. -/
def assignAll (go : Worker) (set : String → String → Run Unit) :
    List (String × Word) → Run (List String)
  | [] => return []
  | (name, word) :: rest => do
    let value ← expandValue (capture go) word
    set name value
    return (name ++ "=" ++ value) :: (← assignAll go set rest)

/-- The text that a prompt stands for. -/
def expandPrompt (go : Worker) (text : String) : Run String := do
  let read := Reader.readParts (Reader.readInner Reader.innerDepth) .document []
    (8 * text.length + 64)
  match read.run (Source.ofText text 1) with
  | .ok (word, _) =>
    return Chunk.join (← Run.session).separator (← expandRest (capture go) word wordDepth)
  | .error _ => return text

/-- Shows a command before it is carried out, if the shell was asked to. -/
def showTrace (go : Worker) (file : Option Nat) (texts : List String) : Run Unit := do
  let session ← Run.session
  if session.has 'x' then
    let lead ← expandPrompt go ((session.value? "PS4").getD "")
    if let some number := file then
      if let some own := (← Run.world).openFiles[number]? then
        let _ ← writeFile number own (lead ++ " ".intercalate texts ++ "\n")

/-- Carries out a command of the shell. Only the failure of a special one ends the script. -/
def runBuiltin (go : Worker) (manner : Manner) (special : Bool) (name : String)
    (args : List String) : Run Unit := do
  Run.spend builtinTime
  let before := (← Run.session).speaker
  Run.update fun session => { session with speaker := some name, unwritten := none }
  let outcome ← Run.attempt (builtinOf go manner name args)
  flush
  let isLost := (← Run.session).unwritten.isSome
  match outcome with
  | .ok status =>
    if isLost then
      Run.update fun session => { session with speaker := some name }
      complain (name ++ ": I/O error")
    setStatus (if isLost then status ||| 1 else status)
  | .error _ => pure ()
  Run.update fun session => { session with speaker := before, unwritten := none }
  match outcome with
  | .ok _ => pure ()
  | .error (.failed status) =>
    if special then throw (.failed status) else setStatus status
  | .error stop => throw stop

/-- The depth up to which calls of functions are nested. -/
def mostCalls : Nat := 1000

def callFunction (go : Worker) (manner : Manner) (body : Script) (args : List String) :
    Run Unit := do
  let outer ← Run.session
  if mostCalls ≤ outer.hidden.length then
    failWith ("Maximum function recursion depth (" ++ toString mostCalls ++ ") reached")
  Run.update fun session =>
    { session with args := args, loops := 0, hidden := [] :: session.hidden, scan := .start }
  let outcome ← Run.attempt (go (.command body manner.inside))
  Run.update fun session =>
    { session.unhide with args := outer.args, loops := outer.loops, scan := outer.scan }
  match outcome with
  | .error (.returned _) => pure ()
  | outcome => Run.resumeWith outcome

/-- Carries out a command by what its name stands for. -/
def runCall (go : Worker) (manner : Manner) (special : Bool) (call : Call) : Run Unit := do
  match call.fields with
  | [] => setStatus (← Run.session).inner
  | name :: args =>
    let session ← Run.session
    let path := if call.standard then defaultPath else session.searchText
    match originOf (← Run.world).files session (!call.direct) path name with
    | .function body => callFunction go manner body args
    | .builtin => runBuiltin go manner special name args
    | .missing e =>
      complain (name ++ ": " ++ startingProblem e)
      setStatus 127
    | .file path =>
      Run.update fun session =>
        if session.known.contains name then session
        else { session with known := name :: session.known }
      runFile go manner name path args

/-- Sets a variable for one command, and remembers it. -/
def setForCommand (name value : String) : Run (String × Option Variable) := do
  let old := (← Run.session).held? name
  setVariable name value
  Run.update fun session =>
    match session.held? name with
    | some v => session.setVariable name { v with exported := true }
    | none => session
  return (name, old)

/-- Sets the variables of the assignments in front of a command, carries the command out and gives
the variables back. -/
def withVariables (go : Worker) (act : List String → Run Unit) (texts : List String) :
    List (String × Word) → Run Unit
  | [] => act texts.reverse
  | (name, word) :: rest => do
    let value ← expandValue (capture go) word
    let old ← setForCommand name value
    Run.ensuring (withVariables go act ((name ++ "=" ++ value) :: texts) rest) fun session =>
      session.giveBack [old]

/-- Carries out a simple command. -/
def runSimple (go : Worker) (manner : Manner) (assignments : List (String × Word))
    (words : List Word) (redirections : List Redirection) : Run Unit := do
  Run.update fun session => { session with inner := 0 }
  let fields ← expandCommand go [] words
  let session ← Run.session
  let call := Call.behind session ⟨fields, false, false⟩ fields.length
  let isBuiltin (name : String) : Bool :=
    (call.direct || (session.function? name).isNone) && specialNames.contains name
  let special := !call.direct && call.fields.head?.any isBuiltin
  let keeps := call.fields.head? = some "exec"
  let noisy := session.file? 2
  let act : Run Unit := do
    if ← redirectAll go redirections then
      if special || call.fields.isEmpty then
        let exports := keeps && call.fields.length > 1
        let texts ← assignAll go (fun name value =>
          if exports then do let _ ← setForCommand name value else setVariable name value)
          assignments
        showTrace go noisy (texts ++ fields)
        runCall go manner special call
      else
        let act (texts : List String) : Run Unit := do
          showTrace go noisy (texts ++ fields)
          runCall go manner special call
        withVariables go act [] assignments
    else
      setStatus 2
      if special then throw (.failed 2)
  if keeps then act else withDescriptors redirections act

end CrossGen.Shell
