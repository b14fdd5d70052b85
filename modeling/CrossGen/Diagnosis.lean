import CrossGen.Configuration
import CrossGen.Digest.Sha256
import CrossGen.Host.Basic
import CrossGen.Target.Matrix
import CrossGen.Text.Lines
import CrossGen.Text.Utf8

/-!
# Diagnosis

What a run would use, and whether the tools that it needs are there.
-/

namespace CrossGen.Diagnosis

/-- The version of the program. -/
def version : String := "0.1.0"

/-- The first line that a tool wrote about its version. Some tools write it to the error stream. -/
def versionLine (transcript : Transcript) : String :=
  let bytes := if transcript.out.isEmpty then transcript.err else transcript.out
  (Text.firstLine? (Text.decodeLossy bytes)).getD "(unknown version)"

/-- Prints the version of a tool. -/
def tool {ε : Type} (program : String) (args : List String) : Act ε Unit := fun host =>
  match Host.execute true (.plain program args) host with
  | .error _ host => Host.print ("  " ++ program ++ ": not found\n") host
  | .ok outcome host =>
    let written := Transcript.empty.appendAll outcome.output
    Host.print ("  " ++ program ++ ": " ++ versionLine written ++ "\n") host

def patchLines (path : Path) : Except IoError ByteArray → String
  | .ok content =>
    "  " ++ path.text ++ "\n" ++ "  sha256: " ++ Digest.sha256 content ++ "\n"
  | .error e => "  " ++ path.text ++ ": " ++ e.message ++ "\n"

def entryLine (entry : Entry) : String :=
  match entry.compiler with
  | some compiler => "  " ++ entry.target.label ++ " (CC=" ++ compiler ++ ")\n"
  | none => "  " ++ entry.target.label ++ "\n"

def targetLines : Except TargetError Matrix → String
  | .ok matrix =>
    "  Resolution: " ++ matrix.shape.name ++ "\n" ++ String.join (matrix.entries.map entryLine)
  | .error e => "  error: " ++ e.message ++ "\n"

/-- Prints all that there is to know before a run. -/
def run {ε : Type} (configuration : Configuration) (env : Environment) : Act ε Unit := do
  Host.print <|
    "=== zstdgen doctor ===\n\n" ++
      "zstdgen version: " ++ version ++ "\n" ++
      "Upstream:        " ++ configuration.release.repository ++ " @ " ++
        configuration.release.revision ++ "\n" ++
      "Output dir:      " ++ configuration.output.text ++ "\n" ++
      "Combiner:        " ++ configuration.combiner.name ++ "\n\n" ++
      "--- External Tools ---\n"
  tool "git" ["--version"]
  tool "python3" ["--version"]
  tool configuration.settings.program ["-version"]
  let host ← get
  Host.print <|
    "\n--- Patch ---\n" ++
      patchLines configuration.patch (host.files.read host.directory configuration.patch) ++
      "\n--- Targets ---\n" ++ targetLines (Matrix.resolve env .native)

end CrossGen.Diagnosis
