import CrossGen.Environment
import CrossGen.Target.Basic

/-!
# The two ways to resolve targets

Targets come either from a pair of lists, one of targets and one of compilers, or from a chain of
variables that name a single target. The environment chooses one of the two ways, and they never
mix.
-/

namespace CrossGen

def targetsVariable : String := "ZSTD_GEN_TARGETS"

def compilersVariable : String := "ZSTD_GEN_CCS"

/-- The variable that names the way in which targets are resolved. -/
def modeVariable : String := "ZSTD_GEN_MODE"

/-- A way to resolve targets. -/
inductive Shape where
  | matrix
  | single
deriving DecidableEq, Repr

namespace Shape

def name : Shape → String
  | matrix => "matrix"
  | single => "single"

/-- The name of a shape in data. -/
def tag : Shape → String
  | matrix => "legacy-matrix"
  | single => "single-target"

/-- Whether targets for `system` may come from this shape. The lists are older than the support for
windows and never name it. -/
def supports : Shape → OperatingSystem → Bool
  | matrix, .windows => false
  | _, _ => true

/-- The shape that the environment asks for, or else the one that its lists suggest. -/
def select (env : Environment) : Except TargetError Shape :=
  match env.value? modeVariable with
  | some mode =>
    if mode = "matrix" || mode = "legacy" then .ok .matrix
    else if mode = "single" || mode = "current" then .ok .single
    else .error (.unknownMode mode)
  | none =>
    if (env.value? targetsVariable).isSome || (env.value? compilersVariable).isSome then
      .ok .matrix
    else .ok .single

/-- Refuses a target whose operating system the shape does not support. -/
def check (shape : Shape) (target : Target) : Except TargetError Unit :=
  if shape.supports target.system then .ok () else .error (.unsupported target.key shape.name)

end Shape

end CrossGen
