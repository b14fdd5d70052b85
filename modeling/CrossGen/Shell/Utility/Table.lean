import CrossGen.Shell.Utility.Arranging
import CrossGen.Shell.Utility.Editing
import CrossGen.Shell.Utility.Launching
import CrossGen.Shell.Utility.Listing
import CrossGen.Shell.Utility.Searching

/-!
# The table of utilities

The utilities that are programs of the machine, by their names.
-/

namespace CrossGen.Shell

/-- The utilities beside the shell. -/
def utilities (go : Worker) : List (String × Utility) :=
  [("true", fun _ => return 0), ("false", fun _ => return 1), ("echo", echoPlain),
    ("printf", printByFormat), ("test", testOperands), ("[", testInBrackets), ("pwd", printPlace),
    ("basename", printLastNames), ("dirname", printParents), ("printenv", printVariables),
    ("sleep", sleepSeconds), ("seq", printSequence), ("yes", repeatWords), ("uname", printMachine),
    ("id", printUser), ("whoami", fun _ => do say "root\n"; return 0), ("cat", concatenate),
    ("head", printPart true), ("tail", printPart false), ("wc", countContent), ("tee", storeInput),
    ("tac", reverseLines), ("sha256sum", printDigests), ("sort", sortLines), ("uniq", uniteLines),
    ("cut", cutLinesApart), ("tr", translateInput), ("mkdir", makeDirectories), ("rm", removeFiles),
    ("rmdir", removeDirectories), ("touch", touchFiles), ("cp", copyFiles), ("mv", moveFiles),
    ("ln", linkFiles), ("chmod", changeModes), ("ls", listFiles), ("readlink", printLinks),
    ("realpath", printRealPaths), ("mktemp", makeTemporary), ("find", findFiles),
    ("grep", searchLines []), ("egrep", searchLines ['E']), ("fgrep", searchLines ['F']),
    ("sed", editLines), ("expr", evaluateOperands), ("env", startWithVariables go),
    ("nohup", startDetached go), ("timeout", startForTime go), ("xargs", startWithInput go)]

def utilityNames : List String :=
  "sh" :: (utilities fun _ => pure ()).map Prod.fst

/-- The status of a utility whose output was lost. -/
def lostStatus (name : String) : Nat :=
  if ["env", "timeout", "nohup"].contains name then 125
  else if name = "sed" then 4
  else if name = "expr" then 3
  else if ["printenv", "sort", "ls", "grep", "egrep", "fgrep"].contains name then 2
  else 1

/-- What a utility says when its output was lost, unless it has said so before. -/
def lostMessages (name : String) (isClosed : Bool) (e : IoError) : List String :=
  if name = "tee" then []
  else if name = "sed" then
    ["couldn't " ++ (if isClosed then "close" else "flush") ++ " stdout: " ++ reason e]
  else if name = "sort" then
    ["fflush failed: 'standard output': " ++ reason e, "write error"]
  else ["write error: " ++ reason e]

/-- Carries out a utility. That its output was lost is reported at its end. -/
def runUtility (go : Worker) (name : String) (args : List String) : Run Unit := do
  match (utilities go).find? fun entry => entry.1 == name with
  | none => setStatus 0
  | some (_, act) =>
    let status ← act args
    flush
    let session ← Run.session
    let isClosed := (session.file? 1).isNone
    let lost := if name = "sed" && isClosed then some badDescriptor else session.unwritten
    match lost with
    | none => setStatus status
    | some e =>
      for message in lostMessages name isClosed e do report message
      setStatus (lostStatus name)

end CrossGen.Shell
