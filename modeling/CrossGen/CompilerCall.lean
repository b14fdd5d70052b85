import CrossGen.Environment
import CrossGen.Host.Basic
import CrossGen.Text.Fields

/-!
# Compiler calls

A wrapper stands where a compiler is called: it calls the real one, named by the environment, with
further arguments in front of those that it has received. Of how the compiler ends it only tells
whether it succeeded.
-/

namespace CrossGen

/-- How the text of further arguments is split. -/
inductive SplitMode where
  /-- Between any number of spaces. -/
  | strict
  /-- At every single space, so that spaces without a text between them give an empty argument. -/
  | legacy
deriving DecidableEq, Repr

/-- Why a call fails. -/
inductive CompilerCallError where
  | unknownSplitMode (value : String)
  | notLaunched (compiler : String) (cause : IoError)
  | failed (compiler : String) (status : Option Int)
deriving DecidableEq, Repr

namespace CompilerCallError

/-- The texts of an error and its reasons. -/
def trail : CompilerCallError → List String
  | unknownSplitMode value =>
    ["unknown CCWRAP_SPLIT value '" ++ value ++ "' (expected strict or legacy)"]
  | notLaunched compiler cause =>
    ["failed to launch " ++ compiler ++ ": " ++ cause.message, cause.message]
  | failed compiler (some status) =>
    [compiler ++ " failed (exit status " ++ toString status ++ ")"]
  | failed compiler none => [compiler ++ " failed (killed by signal)"]

/-- The text of an error. -/
def message (error : CompilerCallError) : String :=
  error.trail.headD ""

end CompilerCallError

def SplitMode.ofEnvironment (env : Environment) : Except CompilerCallError SplitMode :=
  match env.value? "CCWRAP_SPLIT" with
  | none => .ok .strict
  | some value =>
    if value = "strict" then .ok .strict
    else if value = "legacy" then .ok .legacy
    else .error (.unknownSplitMode value)

/-- The arguments in a text. No text is the same as the empty one. -/
def SplitMode.split (mode : SplitMode) (text : Option String) : List String :=
  let tokens := Text.fields ' ' (text.getD "")
  match mode with
  | strict => tokens.filter (!·.isEmpty)
  | legacy => tokens

/-- The compiler that is called, and the arguments that are added. -/
structure CompilerCall where
  compiler : String
  extras : List String
deriving DecidableEq, Repr

namespace CompilerCall

def ofEnvironment (env : Environment) : Except CompilerCallError CompilerCall :=
  match SplitMode.ofEnvironment env with
  | .error e => .error e
  | .ok mode =>
    .ok
      { compiler := env.firstValueD ["CCWRAP_CC", "CC"] "cc"
        extras := mode.split (env.firstValue? ["CCWRAP_EXT_ARGS", "EXT_ARGS"]) }

def args (call : CompilerCall) (received : List String) : List String :=
  call.extras ++ received

def command (call : CompilerCall) (received : List String) : Command :=
  .plain call.compiler (call.args received)

def run (call : CompilerCall) (received : List String) : Act CompilerCallError Unit := do
  let ending ← Host.failAs (.notLaunched call.compiler)
    (Host.executeShown (fun _ => true) (call.command received))
  if ending.isSuccess then pure () else throw (.failed call.compiler ending.status?)

end CompilerCall

end CrossGen
