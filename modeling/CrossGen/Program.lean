import CrossGen.Diagnosis
import CrossGen.Generation
import CrossGen.Preview

/-!
# The program

The three things that the program does, each in the environment that it is given: generate sources,
show what would be generated, and look at the tools.
-/

namespace CrossGen

/-- Why the program fails. -/
inductive ProgramError where
  | failure (cause : Failure)
  /-- A stage failed, and the text says which one. -/
  | inStage (cause : Failure)
  | targets (error : TargetError)
  /-- The targets of a run were refused before it began. -/
  | resolving (error : TargetError)
  | unknownFormat (name : String)
deriving DecidableEq, Repr

/-- The texts of an error and its reasons. -/
def ProgramError.trail : ProgramError → List String
  | .failure cause => cause.trail
  | .inStage cause => (cause.stage.name ++ " stage failed") :: cause.trail
  | .targets error => [error.message]
  | .resolving error => ["resolving targets", error.message]
  | .unknownFormat name =>
    ["unknown format '" ++ name ++ "' (expected human, json, or toml)"]

namespace Program

/-- What the program can be asked to do. -/
inductive Order where
  | generate
  | targets (format : String)
  | doctor
deriving DecidableEq, Repr

/-- Moves what has been forwarded to the console. Only the last stage forwards, so that all that the
tools wrote themselves comes before it. -/
def releaseSinks (host : Host) : Host :=
  let console := host.console.append host.sinks.out.content .out
  { host with
    console := console.append host.sinks.err.content .err
    sinks := ⟨.accepting, .accepting⟩ }

def runOnConsole (step : Generation.Step Failure Report) : Act Failure Report := fun host =>
  match step ⟨host, []⟩ with
  | .ok report run => .ok report (releaseSinks run.host)
  | .error e run => .error e (releaseSinks run.host)

/-- Generates sources for all targets and reports on them. -/
def generate (env : Environment) (places : Places) : Act ProgramError Unit := do
  let configuration ←
    Host.failAs .failure (Host.ofExcept (Configuration.ofEnvironment env places))
  let matrix ← Host.failAs .resolving (Host.ofExcept (Matrix.resolve env .native))
  let report ← Host.failAs .inStage
    (runOnConsole (Generation.run (.tools configuration) configuration matrix))
  Host.print (report.render ++ "\n")

/-- The text that shows what would be generated. -/
def preview (env : Environment) (places : Places) (format : String) :
    Except ProgramError String :=
  match Configuration.ofEnvironment env places with
  | .error failure => .error (.failure failure)
  | .ok configuration =>
    match (Matrix.resolve env .native).bind (Preview.make configuration) with
    | .error e => .error (.targets e)
    | .ok preview =>
      match PreviewFormat.ofName? format with
      | none => .error (.unknownFormat format)
      | some format => .ok (preview.render format)

/-- Shows what would be generated. -/
def targets (env : Environment) (places : Places) (format : String) : Act ProgramError Unit := do
  Host.print (← Host.ofExcept (preview env places format))

/-- Looks at the tools. -/
def doctor (env : Environment) (places : Places) : Act ProgramError Unit := do
  let configuration ←
    Host.failAs .failure (Host.ofExcept (Configuration.ofEnvironment env places))
  Diagnosis.run configuration env

/-- Does what the program is asked to do. -/
def run (order : Order) (env : Environment) (places : Places) : Act ProgramError Unit :=
  match order with
  | .generate => generate env places
  | .targets format => targets env places format
  | .doctor => doctor env places

end Program

end CrossGen
