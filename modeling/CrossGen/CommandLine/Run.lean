import CrossGen.CommandLine.Parse
import CrossGen.CompilerCall

/-!
# Running from the command line

The two programs from their arguments to their exit status: the generator and the wrapped compiler.
Errors are told on the error stream in one line, with their reasons.
-/

namespace CrossGen.CommandLine

/-- Ends an action with an exit status, after telling its error. -/
def concluding {ε : Type} (failed : ε → Nat × String) (act : Act ε Unit) (host : Host) :
    Nat × Host :=
  match act host with
  | .ok () host => (0, host)
  | .error e host =>
    let (status, text) := failed e
    (status, { host with console := host.console.append text.toUTF8 .err })

/-- The patch that is applied unless another one is asked for, in the directory of the program's
own files. -/
def defaultPatch (home : Path) : Path :=
  home / "patches" / "0001-fix-zstd-ccgo-build.patch"

/-- The generator, whose own files are in `home`. -/
def runGenerator (home : Path) (args : List String) (host : Host) : Nat × Host :=
  let onPage (text : Styled) : String := text.page host.environment
  match read args with
  | .error misuse => concluding (fun m => (2, onPage (Misuse.message m))) (throw misuse) host
  | .ok (.help text) => concluding (fun () => (1, "")) (Host.print (onPage text)) host
  | .ok .version =>
    concluding (fun () => (1, ""))
      (Host.print (programName ++ " " ++ Diagnosis.version ++ "\n")) host
  | .ok (.order order) =>
    concluding (fun e => (1, "error: " ++ joinTrail (ProgramError.trail e) ++ "\n"))
      (Program.run order host.environment ⟨defaultPatch home, host.directory.path⟩) host

/-- The texts of an error of a call, which start with the compiler once that is known. -/
def compilerCallTrail : CompilerCallError → List String
  | .unknownSplitMode value => (CompilerCallError.unknownSplitMode value).trail
  | .notLaunched compiler cause =>
    ("running " ++ compiler) :: (CompilerCallError.notLaunched compiler cause).trail
  | .failed compiler status =>
    ("running " ++ compiler) :: (CompilerCallError.failed compiler status).trail

/-- The wrapped compiler with the arguments that its wrapper has received. -/
def runCompilerCall (received : List String) (host : Host) : Nat × Host :=
  concluding (fun e => (1, "ccwrap: " ++ joinTrail (compilerCallTrail e) ++ "\n"))
    (do
      let call ← Host.ofExcept (CompilerCall.ofEnvironment host.environment)
      call.run received)
    host

end CrossGen.CommandLine
