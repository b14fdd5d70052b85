import CrossGen.Checkout
import CrossGen.Combine.Inlining

/-!
# Combining the sources of a checkout

The plan for a checkout is carried out by inlining, and the result is written next to the sources. Or
the script that comes with the sources is told to do the same: the options name the roots, the
excluded headers and the output, and the last argument is the input.
-/

namespace CrossGen.Combine

namespace Plan

/-- The file that the combined source is written to. -/
def outputPath (plan : Plan) (checkout : Checkout) : Path :=
  checkout.root.join plan.output

/-- The directories that included files are looked for in. -/
def searchRoots (plan : Plan) (checkout : Checkout) : List Path :=
  plan.roots.map checkout.source.join

/-- The file that combining starts with. -/
def inputPath (plan : Plan) (checkout : Checkout) : Path :=
  (checkout.source.join plan.scriptDirectory).join plan.input

/-- The rules of a plan on the files of a host. -/
def rules (plan : Plan) (checkout : Checkout) (host : Host) : Rules :=
  .make ⟨host.files, host.directory, plan.searchRoots checkout⟩ plan.excludes plan.keepExcluded

end Plan

/-- Combines the sources of a checkout, and answers where the result is. -/
def runNative (checkout : Checkout) (plan : Plan) : Act Failure Path := do
  let host ← get
  let combined ← Host.ofExcept (combine (plan.rules checkout host) (plan.inputPath checkout))
  Host.failAs .io (Host.writeFile (plan.outputPath checkout) combined.text.toUTF8)
  return plan.outputPath checkout

/-! ## With the script -/

/-- The program that runs the script, and the script itself. -/
structure Script where
  interpreter : String
  file : String
deriving DecidableEq, Repr

def Script.default : Script :=
  ⟨"python3", "combine.py"⟩

namespace Script

/-- The arguments of the script for a plan. -/
def options (plan : Plan) (checkout : Checkout) : List String :=
  (plan.searchRoots checkout).flatMap (fun root => ["-r", root.text]) ++
    plan.excludes.flatMap (fun exclude => ["-x", exclude.text]) ++
    (if plan.keepExcluded then ["-k"] else []) ++
    ["-o", (plan.outputPath checkout).text, plan.input.text]

/-- The command that combines the sources of a checkout. -/
def command (script : Script) (plan : Plan) (checkout : Checkout) : Command :=
  { program := script.interpreter
    args := script.file :: options plan checkout
    directory := some (checkout.source.join plan.scriptDirectory)
    overrides := .empty }

/-- Combines the sources of a checkout, and answers where the result is. The script has to leave a
file there. -/
def run (script : Script) (checkout : Checkout) (plan : Plan) : Act Failure Path := do
  let output := plan.outputPath checkout
  Host.failAs .combineTool (Host.runTool (script.command plan checkout))
  if ← Host.isFile output then return output
  throw (.combine (script.file ++ " produced no output at " ++ output.text))

end Script

/-- Combines the sources of a checkout by the given method. -/
def Method.run (method : Method) (checkout : Checkout) (plan : Plan) : Act Failure Path :=
  match method with
  | .script => Script.default.run checkout plan
  | .native => runNative checkout plan

end CrossGen.Combine
