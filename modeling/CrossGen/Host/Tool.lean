import CrossGen.Host.Basic

/-!
# Running tools

A tool does its work or fails: it can fail to start, or end in any other way than with the exit
status 0. The error says which, in a text of its own with the reason behind it.
-/

namespace CrossGen

/-- Why a tool did not do its work. -/
inductive ToolError where
  | notStarted (program : String) (cause : IoError)
  | failed (program : String) (status : Option Int)
deriving DecidableEq, Repr

namespace ToolError

/-- The text of an error of a tool. -/
def message : ToolError → String
  | notStarted program cause => "failed to start " ++ program ++ ": " ++ cause.message
  | failed program (some status) => program ++ " exited with status " ++ toString status
  | failed program none => program ++ " exited with no status (terminated by signal)"

/-- The texts of an error and its reasons. -/
def trail : ToolError → List String
  | notStarted program cause => [message (notStarted program cause), cause.message]
  | failed program status => [message (failed program status)]

end ToolError

namespace Host

/-- The error of a command that ended, unless it succeeded. -/
def checkEnding (command : Command) (ending : Ending) : Except ToolError Unit :=
  if ending.isSuccess then .ok () else .error (.failed (Command.told command.program) ending.status?)

/-- Runs a tool to its end with the console as its streams. -/
def runTool (command : Command) : Act ToolError Unit := do
  let ending ← failAs (.notStarted (Command.told command.program)) (executeShown (fun _ => true) command)
  ofExcept (checkEnding command ending)

end Host

end CrossGen
