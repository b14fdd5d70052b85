import CrossGen.Checkout
import CrossGen.Combine.Method
import CrossGen.Report
import CrossGen.Transpiler.Invocation
import CrossGen.Transpiler.Task

/-!
# Generating sources

A run fetches the sources, patches them, combines them into one file, and transpiles that file once
for every target. The stages follow each other strictly, and the first failure ends the run; what
has been generated until then stays.
-/

namespace CrossGen

/-- The four stages of a run. Nothing is assumed of what they do. -/
structure Stages where
  fetch : Release → Act Failure Checkout
  patch : Checkout → Path → Act Failure Unit
  combine : Checkout → Combine.Plan → Act Failure Path
  transpile : Task → Act TranspileError Unit

def Stages.tools (configuration : Configuration) : Stages where
  fetch := Checkout.fetch none
  patch := Checkout.applyPatch
  combine := configuration.combiner.run
  transpile := fun task => task.run configuration.settings.program

namespace Generation

/-- A call of a stage with what it was given. -/
inductive Call where
  | fetch (release : Release)
  | patch (checkout : Checkout) (patch : Path)
  | combine (checkout : Checkout) (plan : Combine.Plan)
  | transpile (task : Task)
deriving DecidableEq, Repr

/-- A host with the calls that have been made on it. -/
structure Run where
  host : Host
  calls : List Call

/-- A step of a run, which may fail. -/
abbrev Step (ε α : Type) :=
  EStateM ε Run α

/-- An action on the host as a step. -/
def onHost {ε α : Type} (act : Act ε α) : Step ε α := fun run =>
  match act run.host with
  | .ok a host => .ok a { run with host := host }
  | .error e host => .error e { run with host := host }

def call {ε α : Type} (made : Call) (act : Act ε α) : Step ε α := fun run =>
  onHost act { run with calls := run.calls ++ [made] }

/-- The call of the transpiler for an entry of the matrix. -/
def taskFor (entry : Entry) (invocation : Invocation) : Task :=
  ⟨entry.target, invocation.args, entry.compiler⟩

/-- Reports the failure of a transpiler under the key of its target. -/
def underKey (target : Target) : TranspileError → Failure :=
  .transpile target.key

/-- Transpiles for one entry, and makes sure that there is an output. -/
def produce (stages : Stages) (entry : Entry) (invocation : Invocation) :
    Step Failure GeneratedFile := do
  let task := taskFor entry invocation
  call (.transpile task) (Host.failAs (underKey entry.target) (stages.transpile task))
  if ← onHost (Host.isFile invocation.output) then
    onHost (Host.failAs .io (GeneratedFile.inspect entry.target invocation.output entry.compiler))
  else throw (.missingOutput entry.target.key invocation.output)

/-- The options for an entry of the matrix. -/
def invocationFor (configuration : Configuration) (shape : Shape) (combined : Path)
    (entry : Entry) : Except TargetError Invocation :=
  Invocation.build entry.target shape combined configuration.output configuration.settings

/-- Transpiles for one entry after the other. -/
def produceAll (stages : Stages) (configuration : Configuration) (shape : Shape)
    (combined : Path) : List Entry → Step Failure (List GeneratedFile)
  | [] => pure []
  | entry :: rest => do
    match invocationFor configuration shape combined entry with
    | .error e => throw (.target e)
    | .ok invocation =>
      let file ← produce stages entry invocation
      let files ← produceAll stages configuration shape combined rest
      return file :: files

/-- Fetches the sources, patches them and combines them. -/
def prepare (stages : Stages) (configuration : Configuration) :
    Step Failure (Checkout × Path) := do
  let checkout ← call (.fetch configuration.release) (stages.fetch configuration.release)
  call (.patch checkout configuration.patch) (stages.patch checkout configuration.patch)
  let combined ←
    call (.combine checkout configuration.plan) (stages.combine checkout configuration.plan)
  return (checkout, combined)

/-- Runs all stages on all entries of the matrix. -/
def run (stages : Stages) (configuration : Configuration) (matrix : Matrix) :
    Step Failure Report := do
  if matrix.entries.isEmpty then throw (.configuration "no targets resolved")
  let started := (← get).host.clock
  onHost (Host.failAs .io (Host.makeDirectories configuration.output))
  let (checkout, combined) ← prepare stages configuration
  let files ← produceAll stages configuration matrix.shape combined matrix.entries
  let ended := (← get).host.clock
  return ⟨matrix.shape, checkout.root, combined, files, ended - started⟩

end Generation

end CrossGen
