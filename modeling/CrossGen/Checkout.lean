import CrossGen.Configuration
import CrossGen.Host.Temporary
import CrossGen.Host.Tool

/-!
# Checkouts

The sources are fetched into a directory of their own, which is kept after the run so that it can be
looked into. The patch is tried on them before it is applied, so that a patch that no longer fits is
told apart from all other failures and never changes the sources in part.
-/

namespace CrossGen

/-- A working directory with the sources in it. -/
structure Checkout where
  root : Path
deriving DecidableEq, Repr

namespace Checkout

def sourceName : String := "zstd"

def source (checkout : Checkout) : Path :=
  checkout.root / sourceName

/-- Makes a working directory in `parent`, or else where temporary directories go. -/
def make (parent : Option Path) : Act IoError Checkout := do
  let host ← get
  let root ← Host.makeTemporary (parent.getD host.temporaryParent) "zstd-build-"
  return ⟨root⟩

/-- The command that fetches the sources: one revision, without history. -/
def cloneCommand (checkout : Checkout) (release : Release) : Command :=
  { program := "git"
    args :=
      ["clone", "-b", release.revision, "--depth=1", "--single-branch", release.repository,
        sourceName]
    directory := some checkout.root
    overrides := .empty }

/-- Fetches the sources into a new working directory. -/
def fetch (parent : Option Path) (release : Release) : Act Failure Checkout := do
  let checkout ← Host.failAs .io (make parent)
  Host.failAs .fetch (Host.runTool (checkout.cloneCommand release))
  return checkout

/-! ## Patching the sources -/

/-- The command that applies a patch to the sources, or only tries to. -/
def applyCommand (checkout : Checkout) (patch : Path) (tryOnly : Bool) : Command :=
  { program := "git"
    args := ["apply"] ++ (if tryOnly then ["--check"] else []) ++ [patch.text]
    directory := some checkout.source
    overrides := .empty }

/-- Tries whether the patch fits. Only complaints are shown. -/
def tryPatch (checkout : Checkout) (patch : Path) : Act Failure Unit := do
  let command := checkout.applyCommand patch true
  let ending ← Host.failAs (fun e => .patch (.notStarted command.program e))
    (Host.executeShown (fun stream => stream == .err) command)
  if ending.isSuccess then pure () else throw (.patchDrift patch)

/-- Applies a patch, which has to be readable, to the sources. -/
def applyPatch (checkout : Checkout) (patch : Path) : Act Failure Unit := do
  let _ ← Host.failAs (fun _ => .patchMissing patch) (Host.readFile patch)
  checkout.tryPatch patch
  Host.failAs .patch (Host.runTool (checkout.applyCommand patch false))

end Checkout

end CrossGen
