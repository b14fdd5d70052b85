import CrossGen.Shell.Interpreter.Compound
import CrossGen.Shell.Interpreter.Start
import CrossGen.Shell.Utility.Table

/-!
# Carrying out scripts

One step of the interpreter carries out a job, and hands the jobs that are part of it to whatever
carries out those. The interpreter itself ties the knot up to a depth.
-/

namespace CrossGen.Shell

/-- The part of a script that has been read, up to the end of its line. -/
def readPart (before after : Source) : String :=
  String.ofList (before.rest.take (before.rest.length - after.rest.length))

/-- Shows what has been read of a file, if the shell was asked to. -/
def showLines (isFile : Bool) (text : String) : Run Unit := do
  if isFile && (← Run.session).has 'v' then warn text

/-- Carries out the lines of a source, none of which is known to be the last. -/
def runLines (go : Worker) (isFile : Bool) (manner : Manner) : Nat → Source → Run Unit
  | 0, _ => throw (.killed killSignal)
  | n + 1, source => do
    match Reader.readNext.run source with
    | .error mistake =>
      showLines isFile (String.ofList source.rest)
      Run.update fun session => { session with line := mistake.line }
      failWith mistake.text
    | .ok (none, rest) => showLines isFile (readPart source rest)
    | .ok (some script, rest) =>
      showLines isFile (readPart source rest)
      go (.command script manner)
      runLines go isFile manner n rest

/-- The most signals that are taken care of in one go. -/
def mostSignals : Nat := 1000

/-- Carries out a job by means of a worker for its parts. -/
def step (go : Worker) : Job → Run Unit
  | .command script manner => do
    unless (← Run.session).has 'n' do
      handleSignals go mostSignals
      runScript go manner script
      handleSignals go mostSignals
  | .lines source isFile manner => runLines go isFile manner.inside (source.rest.length + 2) source
  | .program image args => do
    if image.utility = "sh" then runShell go image.called args
    else runUtility go image.utility args

/-- Carries out jobs whose parts are nested no deeper than the given depth. -/
def work : Nat → Worker
  | 0, _ => throw (.killed 11)
  | depth + 1, job => step (work depth) job

end CrossGen.Shell
