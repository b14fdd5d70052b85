import CrossGen.Digest.Sha256
import CrossGen.Host.Basic
import CrossGen.Target.Encoding

/-!
# Reports

What a run has generated: each file with its size and digest as they were when the transpiler was
done with it.
-/

namespace CrossGen

/-- A generated file. -/
structure GeneratedFile where
  target : Target
  path : Path
  size : Nat
  digest : String
  compiler : Option String
deriving DecidableEq, Repr

namespace GeneratedFile

/-- Describes the file at `path`. -/
def inspect (target : Target) (path : Path) (compiler : Option String) :
    Act IoError GeneratedFile := do
  let content ← Host.readFile path
  return ⟨target, path, content.size, Digest.sha256 content, compiler⟩

def line (file : GeneratedFile) : String :=
  let label := file.target.label
  "  " ++ label ++ "".pushn ' ' (16 - label.length) ++ " " ++ file.path.text ++ " (" ++
    toString file.size ++ " bytes, sha256 " ++ file.digest ++ ")\n"

/-- A file as a JSON object. -/
def toJson (file : GeneratedFile) : Json :=
  .object
    [("target", file.target.toJson), ("path", .string file.path.text), ("bytes", .nat file.size),
      ("sha256", .string file.digest), ("compiler", Json.ofText? file.compiler)]

end GeneratedFile

/-- The summary of a run that has generated all its targets. -/
structure Report where
  shape : Shape
  workdir : Path
  combined : Path
  files : List GeneratedFile
  milliseconds : Nat
deriving DecidableEq, Repr

namespace Report

def render (report : Report) : String :=
  "=== Generation Report ===\n" ++
    "Resolution: " ++ report.shape.name ++ "\n" ++
    "Workdir:    " ++ report.workdir.text ++ "\n" ++
    "Combined:   " ++ report.combined.text ++ "\n" ++
    "Duration:   " ++ toString report.milliseconds ++ " ms\n\n" ++
    "--- Generated (" ++ toString report.files.length ++ " files) ---\n" ++
    String.join (report.files.map GeneratedFile.line)

def toJson (report : Report) : Json :=
  .object
    [("shape", report.shape.toJson), ("workdir", .string report.workdir.text),
      ("combined_source", .string report.combined.text),
      ("files", .array (report.files.map GeneratedFile.toJson)),
      ("duration_ms", .nat report.milliseconds)]

end Report

end CrossGen
