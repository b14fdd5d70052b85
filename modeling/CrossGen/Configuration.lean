import CrossGen.Combine.Plan
import CrossGen.Environment
import CrossGen.Failure

/-!
# Configuration

All values that a run depends on besides its targets: defaults, some of which only the caller
knows, with the overrides of the environment on top.
-/

namespace CrossGen

/-- Where the sources come from. -/
structure Release where
  repository : String
  revision : String
deriving DecidableEq, Repr

def Release.pinned : Release :=
  ⟨"https://github.com/facebook/zstd.git", "v1.5.7"⟩

/-- What all calls of the transpiler have in common. -/
structure Settings where
  program : String
  packageName : String
  standard : String
  outputStem : String
  outputExtension : String
deriving DecidableEq, Repr

def Settings.default : Settings :=
  ⟨"ccgo", "libzstd", "-std=c17", "zstd", "go"⟩

/-- What only the caller knows: where the patch is, and where generated files go. -/
structure Places where
  patch : Path
  output : Path
deriving DecidableEq, Repr

/-- The values that a run depends on. -/
structure Configuration where
  release : Release
  patch : Path
  output : Path
  combiner : Combine.Method
  plan : Combine.Plan
  settings : Settings
deriving DecidableEq, Repr

namespace Configuration

def ofEnvironment (env : Environment) (places : Places) : Except Failure Configuration :=
  let method : Except String Combine.Method :=
    match env.value? "ZSTD_GEN_COMBINER" with
    | none => Except.ok .script
    | some name => Combine.Method.parse name
  match method with
  | .error text => .error (.configuration text)
  | .ok method =>
    .ok
      { release :=
          { repository := (env.value? "ZSTD_GEN_REPO").getD Release.pinned.repository
            revision := (env.value? "ZSTD_GEN_REV").getD Release.pinned.revision }
        patch := ((env.value? "ZSTD_GEN_PATCH").map Path.mk).getD places.patch
        output := ((env.value? "ZSTD_GEN_OUT_DIR").map Path.mk).getD places.output
        combiner := method
        plan := .default
        settings :=
          { Settings.default with
            program := (env.value? "ZSTD_GEN_TRANSPILER").getD Settings.default.program } }

end Configuration

end CrossGen
