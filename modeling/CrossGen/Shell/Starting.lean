import CrossGen.Shell.Job
import CrossGen.Shell.Lookup

/-!
# Starting programs

A program takes the place of the process that starts it, or of one that is made for it. It keeps the
files that are open and the variables that are exported.
-/

namespace CrossGen.Shell

/-- The state in which a program starts that takes the place of a shell. -/
def Session.forProgram (session : Session) (called : String) : Session :=
  { session with
    leader := session.number
    name := called
    args := []
    bindings := session.exports.map fun (name, value) => (name, ⟨some value, true, false⟩)
    functions := []
    hidden := []
    options := []
    status := 0
    inner := 0
    line := 0
    speaker := none
    loops := 0
    traps := session.traps.filter fun entry => entry.2.isEmpty
    pending := []
    background := none
    children := []
    descriptors := session.descriptors.filter fun entry => entry.1 < ownDescriptor 0
    scan := .start
    known := []
    waiting := ""
    unwritten := none }

/-- What is started for the file at a path. A file that is no program is taken for a script. -/
def imageOf (files : FileSystem) (here : Location) (called path : String) : Except IoError Image :=
  match imageAt files here interpreterDepth (Text.ofOctets called) (hostPath path) with
  | .ok image =>
    .ok
      { image with
        called := if image.before.isEmpty then called else Text.toOctets image.called
        before := image.before.map Text.toOctets }
  | .error e => if e = .notRunnable then .ok ⟨"sh", "/bin/sh", [path]⟩ else .error e

/-- The status of a shell that could not start a program. -/
def startingStatus (e : IoError) : Nat :=
  if e = .notFound || e = .notDirectory || e = .tooManyLinks || e = .nameTooLong then 127 else 126

/-- Lets a program take the place of the process. -/
def becomeImage (go : Worker) (image : Image) (args : List String) : Run Unit := do
  Run.update fun session => session.forProgram image.called
  Run.spend programTime
  go (.program image (image.before ++ args))
  throw (.exited (← Run.session).status)

/-- Lets the program in a file take the place of the process, or says why that is not possible. -/
def becomeFile (go : Worker) (called path : String) (args : List String) : Run Unit := do
  let session ← Run.session
  match imageOf (← Run.world).files session.directory called path with
  | .error e =>
    complain (called ++ ": " ++ startingProblem e)
    throw (.exited (startingStatus e))
  | .ok image => becomeImage go image args

/-- Carries out the program in a file, in the place of the process if that has nothing else to do.
-/
def runFile (go : Worker) (manner : Manner) (called path : String) (args : List String) :
    Run Unit := do
  if manner.final && !(← Run.session).hasTraps then becomeFile go called path args
  else
    let number ← Run.fork Session.asPart (becomeFile go called path args)
    waitForCommand number

/-- Lets the program of a name take the place of a utility that was asked to, with a message of the
utility if that is not possible. -/
def becomeNamed (go : Worker) (refused : IoError → Run Nat) (name : String) (args : List String) :
    Run Nat := do
  let session ← Run.session
  let files := (← Run.world).files
  let found : Except IoError String :=
    if name.toList.contains '/' then .ok name
    else if name.isEmpty then .error .notFound
    else findProgram files session ((session.value? "PATH").getD "/bin:/usr/bin") name
  match found.bind fun path => imageOf files session.directory name path with
  | .error e => refused e
  | .ok image =>
    becomeImage go image args
    return 0

end CrossGen.Shell
