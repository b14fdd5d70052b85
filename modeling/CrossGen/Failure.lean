import CrossGen.Host.Tool
import CrossGen.Target.Basic

/-!
# Why a run fails

The causes for which a run ends early, the stage that each of them belongs to, and their texts. An
error may have another one as its reason; the trail of an error is its own text with the texts of
all reasons behind it.
-/

namespace CrossGen

/-- Why one target was not transpiled. -/
inductive TranspileError where
  /-- The transpiler is a program that could not be started or failed. -/
  | tool (error : ToolError)
  /-- The transpiler itself says why. -/
  | reported (text : String)
  /-- What the transpiler wrote could not be passed on. -/
  | forwarding (cause : IoError)
deriving DecidableEq, Repr

namespace TranspileError

/-- The texts of an error and its reasons. -/
def trail : TranspileError → List String
  | tool error => error.trail
  | reported text => [text]
  | forwarding cause => ["forwarding transpiler output: " ++ cause.message, cause.message]

/-- The text of an error. -/
def message (error : TranspileError) : String :=
  error.trail.headD ""

end TranspileError

/-- The stages of a run. -/
inductive Stage where
  | configuration
  | fetch
  | patch
  | combine
  | transpile
deriving DecidableEq, Repr

def Stage.name : Stage → String
  | configuration => "config"
  | fetch => "fetch"
  | patch => "patch"
  | combine => "combine"
  | transpile => "transpile"

/-- Why a run failed. -/
inductive Failure where
  | configuration (text : String)
  | target (error : TargetError)
  | fetch (error : ToolError)
  | patchMissing (path : Path)
  /-- The patch does not fit the sources that it was made for any more. -/
  | patchDrift (path : Path)
  | patch (error : ToolError)
  | combine (text : String)
  | combineTool (error : ToolError)
  | transpile (key : String) (error : TranspileError)
  /-- The transpiler reported success without writing its output. -/
  | missingOutput (key : String) (path : Path)
  | io (cause : IoError)
deriving DecidableEq, Repr

namespace Failure

def stage : Failure → Stage
  | configuration _ | target _ | io _ => .configuration
  | fetch _ => .fetch
  | patchMissing _ | patchDrift _ | patch _ => .patch
  | combine _ | combineTool _ => .combine
  | transpile .. | missingOutput .. => .transpile

/-- Whether the same run may succeed another time. Only what comes over the network is expected to
fail now and then. -/
def isTransient : Failure → Bool
  | fetch _ => true
  | _ => false

/-- The texts of a failure and its reasons. -/
def trail : Failure → List String
  | configuration text => ["invalid configuration: " ++ text]
  | target error => [error.message]
  | fetch error => ("fetching upstream source failed: " ++ error.message) :: error.trail
  | patchMissing path => ["patch file not found: " ++ path.text]
  | patchDrift path =>
    ["patch " ++ path.text ++ " no longer applies to the pinned revision; refresh it by hand"]
  | patch error => ("applying patch failed: " ++ error.message) :: error.trail
  | combine text => ["combining sources failed: " ++ text]
  | combineTool error => ("combiner process failed: " ++ error.message) :: error.trail
  | transpile key error =>
    ("transpiling for " ++ key ++ " failed: " ++ error.message) :: error.trail
  | missingOutput key path =>
    ["transpiler reported success for " ++ key ++ " but " ++ path.text ++ " was not written"]
  | io cause => ["I/O error: " ++ cause.message, cause.message]

def message (failure : Failure) : String :=
  failure.trail.headD ""

end Failure

/-- The texts of an error and its reasons in one line. -/
def joinTrail (trail : List String) : String :=
  ": ".intercalate trail

end CrossGen
