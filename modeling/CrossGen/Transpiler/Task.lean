import CrossGen.Failure
import CrossGen.Target.Matrix
import CrossGen.Transpiler.Relay

/-!
# Calling the transpiler

The transpiler learns from its environment which target it works for and which compiler to ask about
the platform. Its output goes to the sinks.
-/

namespace CrossGen

/-- A call of the transpiler for one target. -/
structure Task where
  target : Target
  args : List String
  compiler : Option String
deriving DecidableEq, Repr

namespace Task

def compilerVariable : String := "CC"

/-- The variables that are set for the transpiler. A task without a compiler leaves that of the
caller alone. -/
def overrides (task : Task) : Environment :=
  .ofPairs
    ([("TARGET_GOOS", task.target.system.name), ("TARGET_GOARCH", task.target.arch)] ++
      (task.compiler.map fun compiler => (compilerVariable, compiler)).toList)

def command (task : Task) (program : String) : Command :=
  { program := program
    args := task.args
    directory := none
    overrides := task.overrides }

/-- Forwards pieces to the sinks. -/
def forwardOutput (output : List (Stream × ByteArray)) : Act TranspileError Unit := fun host =>
  match Relay.forward (Relay.messages output) host.sinks with
  | (.error cause, sinks) => .error (.forwarding cause) { host with sinks := sinks }
  | (.ok (), sinks) => .ok () { host with sinks := sinks }

/-- The number of pieces that are offered to the sinks until one of them is not taken. -/
def offered : List (Stream × ByteArray) → Sinks → Nat
  | [], _ => 0
  | piece :: pieces, sinks =>
    match Relay.forward (Relay.messages [piece]) sinks with
    | (.error _, _) => 1
    | (.ok (), sinks) => offered pieces sinks + 1

/-- Forwards the pieces that a program writes to the sinks. If that is not possible, the program is
ended, and leaves files that depend on how many pieces there were until then. -/
def forwardUntil (leaving : Nat → FileSystem) (output : List (Stream × ByteArray)) :
    Act TranspileError Unit := fun host =>
  match forwardOutput output host with
  | .error e failed => .error e { failed with files := leaving (offered output host.sinks) }
  | .ok () forwarded => .ok () forwarded

/-- Carries a task out with the given program. -/
def run (task : Task) (program : String) : Act TranspileError Unit := do
  let command := task.command program
  let outcome ← Host.failAs (fun e => .tool (.notStarted program e)) (Host.execute true command)
  forwardUntil outcome.leaving outcome.output
  Host.failAs .tool (Host.ofExcept (Host.checkEnding command outcome.ending))

end Task

end CrossGen
