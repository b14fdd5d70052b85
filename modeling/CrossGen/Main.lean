import CrossGen.CommandLine.Run
import CrossGen.Shell.Machine

/-!
# The programs

The generator and the wrapped compiler as programs. Whatever a run looks at is loaded onto a host,
the run itself is a pure function of that host, and what it wrote is stored and shown afterwards.
The tools of the host are the utilities of the machine of scripts and the scripts on the search
path.
-/

namespace CrossGen

/-- The variables that a run looks at. -/
def observedVariables : List String :=
  ["PATH", "TMPDIR", "GOOS", "GOARCH", "TARGET_GOOS", "TARGET_GOARCH", "ZSTD_GEN_TARGETS",
    "ZSTD_GEN_CCS", "ZSTD_GEN_MODE", "ZSTD_GEN_CC", "ZSTD_GEN_OUT_DIR", "ZSTD_GEN_PATCH",
    "ZSTD_GEN_REPO", "ZSTD_GEN_REV", "ZSTD_GEN_COMBINER", "ZSTD_GEN_TRANSPILER", "CC", "CCWRAP_CC",
    "EXT_ARGS", "CCWRAP_EXT_ARGS", "CCWRAP_SPLIT"]

/-- The environment, as far as a run looks at it. -/
def loadEnvironment : IO Environment := do
  let pairs ← observedVariables.filterMapM fun name => do
    return (← IO.getEnv name).map fun value => (name, value)
  return .ofPairs pairs

/-- The file system with a directory at `loc` and at all that is above it. -/
def FileSystem.withDirectories (files : FileSystem) (loc : Location) : FileSystem :=
  (List.range loc.names.length).foldl
    (fun files n =>
      let above : Location := ⟨loc.names.take (n + 1)⟩
      if (files.node? above).isSome then files else files.put above .directory)
    files

/-- The file system with the file at `p`, if there is one that is accepted. -/
def loadFile (accepted : ByteArray → Bool) (executable : Bool) (files : FileSystem) (p : Path) :
    IO FileSystem := do
  match ← (IO.FS.readBinFile p.text).toBaseIO with
  | .error _ => return files
  | .ok content =>
    let loc : Location := ⟨p.components⟩
    if accepted content && (files.node? loc).isNone then
      return (files.withDirectories loc.parent).put loc (.file content executable)
    else return files

def isScript (content : ByteArray) : Bool :=
  content.extract 0 2 == "#!".toUTF8

/-- The tools that a run may start. -/
def toolNames (environment : Environment) : List String :=
  ["git", "python3", environment.firstValueD ["ZSTD_GEN_TRANSPILER"] "ccgo",
    environment.firstValueD ["CCWRAP_CC", "CC"] "cc"]

/-- The host of a run in the directory `here`, with the patch, the tools and the directories that it
may look at. -/
def loadHost (home here : Path) : IO Host := do
  let environment ← loadEnvironment
  let directory : Location := ⟨here.components⟩
  let parent : Path := here.join ⟨environment.firstValueD ["TMPDIR"] "/tmp"⟩
  let mut files := (Shell.installed.withDirectories directory).withDirectories ⟨parent.components⟩
  for place in Shell.searchPath (environment.lookup? "PATH") do
    for name in toolNames environment do
      files ← loadFile isScript true files (here.join (place / name))
  let patch := CommandLine.defaultPatch home
  files ← loadFile (fun _ => true) false files
    (here.join ⟨environment.firstValueD ["ZSTD_GEN_PATCH"] patch.text⟩)
  return .fresh files directory environment Shell.machine

/-- Stores the files and directories that a run has made or changed. -/
def storeFiles (before after : FileSystem) : IO Unit := do
  for (loc, node) in after.entries.reverse do
    unless before.node? loc == some node do
      match node with
      | .directory => IO.FS.createDirAll loc.path.text
      | .file content _ => IO.FS.writeBinFile loc.path.text content
      | .link _ | .device _ | .sealed _ => pure ()

/-- Shows what a run has written. -/
def showConsole (console : Transcript) : IO Unit := do
  let out ← IO.getStdout
  out.write console.out
  out.flush
  let err ← IO.getStderr
  err.write console.err
  err.flush

end CrossGen

open CrossGen in
/-- Calls the compiler if the program goes by the name of its wrapper, and the generator otherwise.
-/
def main (args : List String) : IO UInt32 := do
  let program : Path := ⟨toString (← IO.appPath)⟩
  let home : Path := ⟨"/" ++ "/".intercalate program.names.dropLast⟩
  let host ← loadHost home ⟨toString (← IO.currentDir)⟩
  let (status, after) :=
    if program.names.getLast? = some "ccwrap" then CommandLine.runCompilerCall args host
    else CommandLine.runGenerator home args host
  storeFiles host.files after.files
  showConsole after.console
  return .ofNat status
