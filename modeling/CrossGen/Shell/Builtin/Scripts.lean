import CrossGen.Shell.Builtin.Control
import CrossGen.Shell.Builtin.Directory
import CrossGen.Shell.Builtin.Variables
import CrossGen.Shell.Starting

/-!
# Commands about commands

The commands of the shell that carry out texts, files and programs, or tell what a command is; and
the table of all commands of the shell.
-/

namespace CrossGen.Shell

/-- Whether nothing in a source is a command. A mistake counts as one. -/
def Source.isIdle (source : Source) : Nat → Bool
  | 0 => false
  | n + 1 =>
    match Reader.readNext.run source with
    | .ok (none, _) => true
    | .ok (some (.block []), rest) => rest.isIdle n
    | _ => false

/-- Carries out the lines of a text or of a file, and answers their status. -/
def carryOut (go : Worker) (text : String) (isFile : Bool) (manner : Manner) : Run Nat := do
  let source := Source.ofText text 1
  go (.lines source isFile manner)
  if source.isIdle (text.length + 2) then return 0 else return (← Run.session).status

/-- Carries out its arguments as a script. -/
def evaluateText (go : Worker) (manner : Manner) : Builtin := fun args => do
  carryOut go (" ".intercalate args) false manner.inside

/-- The path of the file of a name that is to be read as a script. -/
def scriptPath (name : String) : Run String := do
  if name.toList.contains '/' then return name
  let session ← Run.session
  let files := (← Run.world).files
  let paths := (searchPath (some (Text.ofOctets session.searchText))).map fun dir =>
    dir / Text.ofOctets name
  match paths.find? fun p => files.isFile session.directory p with
  | some p => return Text.toOctets p.text
  | none => failWith (name ++ ": not found")

/-- The text of a script in a file. -/
def readScript (path : String) : Run String := do
  match ← openPath path .read with
  | .error e => failWith ("cannot open " ++ path ++ ": " ++ openingProblem e)
  | .ok file =>
    let descriptor := ownDescriptor file
    Run.update fun session => session.direct descriptor file
    let text := ((← readAll descriptor).toOption).getD ""
    Run.update fun session => session.close descriptor
    return text

/-- Carries out the lines of a file as if they stood in the script. -/
def includeFile (go : Worker) (manner : Manner) : Builtin := fun args => do
  match (← takeOptions [] [] args).2 with
  | [] => return 0
  | name :: _ =>
    let path ← scriptPath name
    let text ← readScript path
    Run.update fun session => { session with speaker := some path }
    match ← Run.attempt (carryOut go text true manner.inside) with
    | .error (.returned _) => return (← Run.session).status
    | outcome => Run.resumeWith outcome

/-- Lets a program take the place of the shell. -/
def replaceShell (go : Worker) : Builtin := fun args => do
  match args with
  | [] => return 0
  | name :: args =>
    let session ← Run.session
    let refuse (e : IoError) : Run Unit := do
      complain (name ++ ": " ++ startingProblem e)
      throw (.exited (startingStatus e))
    if name.toList.contains '/' then becomeFile go name name args
    else
      match findProgram (← Run.world).files session session.searchText name with
      | .error e => refuse e
      | .ok path => becomeFile go name path args
    return 0

/-- Says what commands are. -/
def showTypes : Builtin := fun args => do
  let mut status := 0
  for name in args do
    status := status ||| (← describe true (← Run.session).searchText name)
  return status

/-- Says what a command is, if that is asked for. -/
def showCommand : Builtin := fun args => do
  let (options, args) ← takeOptions ['p', 'v', 'V'] [] args
  let session ← Run.session
  let path := if options.contains 'p' then defaultPath else session.searchText
  let wanted := options.reverse.find? fun letter => letter != 'p'
  match args, wanted with
  | name :: _, some letter => describe (letter == 'V') path name
  | _, _ => return 0

/-- Looks for programs, so that they are known. -/
def knowPrograms : Builtin := fun args => do
  let (_, args) ← takeOptions ['r', 'v'] [] args
  let mut status := 0
  for name in args do
    let session ← Run.session
    match originOf (← Run.world).files session true session.searchText name with
    | .missing e =>
      complain (name ++ ": " ++ startingProblem e)
      status := 1
    | _ => pure ()
  return status

/-- Fails because there is no job to be continued. -/
def continueJob : Builtin := fun args => do
  let _ ← takeOptions [] [] args
  failWith "No current job"

/-- Fails for each of its arguments, none of which is the name of an alias. -/
def refuseAliases (name : String) : Builtin := fun args => do
  let args := if name = "unalias" && args.head? = some "-a" then [] else args
  for arg in args do
    unless name == "alias" && arg.toList.contains '=' do
      warn (name ++ ": " ++ arg ++ " not found\n")
  return if args.all fun arg => name == "alias" && arg.toList.contains '=' then 0 else 1

/-- Shows that a process may use as much as it likes. -/
def showLimits : Builtin := fun _ => do
  say "unlimited\n"
  return 0

/-- The command of the shell of the given name. -/
def builtinOf (go : Worker) (manner : Manner) (name : String) : Builtin :=
  match name with
  | "." => includeFile go manner
  | "break" => leaveLoops .left
  | "continue" => leaveLoops .continued
  | "eval" => evaluateText go manner
  | "exec" => replaceShell go
  | "exit" => exitScript
  | "export" => exportVariables
  | "local" => localVariables
  | "readonly" => protectVariables
  | "return" => returnFromFunction
  | "set" => setOptions
  | "shift" => shiftArguments
  | "times" => showTimes
  | "trap" => setTraps singleQuoted
  | "unset" => unsetVariables
  | "[" => testBracket
  | "alias" | "unalias" => refuseAliases name
  | "bg" | "fg" => continueJob
  | "cd" | "chdir" => changeDirectory
  | "command" => showCommand
  | "echo" => echoEscaped
  | "false" => fun _ => return 1
  | "getopts" => nextOption
  | "hash" => knowPrograms
  | "kill" => sendSignal
  | "printf" => printFormatted
  | "pwd" => printDirectory
  | "read" => readVariables
  | "test" => testCondition
  | "type" => showTypes
  | "ulimit" => showLimits
  | "umask" => setMask
  | "wait" => waitForChildren
  | _ => fun _ => return 0

end CrossGen.Shell
