import CrossGen.Shell.Interpreter
import CrossGen.Shell.Schedule

/-!
# A machine of scripts

A machine on which programs are shell scripts, carried out by the interpreter, and utilities for them
to use.
-/

namespace CrossGen.Shell

/-- The depth up to which jobs are nested. -/
def workDepth : Nat := 40000

def firstNumber (launch : Launch) : Nat :=
  1000 + 500 * launch.number

/-- The session in which a launched program starts. -/
def Session.ofLaunch (launch : Launch) : Session :=
  { number := firstNumber launch
    leader := firstNumber launch
    name := Text.toOctets launch.program
    args := []
    directory := launch.directory
    place := shellPath launch.directory
    bindings := launch.environment.entries.map fun (name, value) =>
      (Text.toOctets name, ⟨some (Text.toOctets value), true, false⟩)
    functions := []
    hidden := []
    options := []
    status := 0
    inner := 0
    line := 0
    speaker := none
    loops := 0
    traps := []
    pending := []
    background := none
    children := []
    descriptors := [(0, 0), (1, 1), (2, 2)]
    scan := .start
    mask := 0o022
    known := []
    waiting := ""
    unwritten := none }

/-- What a launched program finds: an empty input, and the two streams. -/
def World.ofLaunch (launch : Launch) : World :=
  { files := launch.files
    openFiles :=
      #[⟨.device .void, true, false, false, 0⟩, ⟨.stream .out, false, true, false, 0⟩,
        ⟨.stream .err, false, true, false, 0⟩]
    pipes := #[]
    output := #[]
    ended := []
    sent := []
    living := []
    now := 0 }

/-- The run of a launched program, which has not begun yet. -/
def Course.ofLaunch (launch : Launch) (image : Image) : Course :=
  let args := (image.before ++ launch.args).map Text.toOctets
  let called := Text.toOctets image.called
  let session := (Session.ofLaunch launch).forProgram called
  let act : Run Unit := do
    Run.spend programTime
    work workDepth (.program { image with called := called } args)
  let process : Process :=
    { parent := 0
      session := session
      wish := .moment beginTime
      resume := fun _ session world => act Run.finish session world
      time := 0 }
  ⟨[process], World.ofLaunch launch, session.number⟩

/-- How a run has ended whose first process has the given number. -/
def Course.ending (course : Course) (number : Nat) : Ending :=
  match course.world.exit? number with
  | some (.status code) => .exited code
  | _ => .killed

/-- The machine that carries out scripts. -/
def machine : Machine := fun launch =>
  match findImage launch.files launch.directory (launch.environment.lookup? "PATH")
      launch.program with
  | .error e => .error e
  | .ok image =>
    let number := firstNumber launch
    let run (patience : Option Nat) : Course :=
      (Course.ofLaunch launch image).run ⟨launch.isRead, patience⟩ number none mostTurns
    let course := run none
    .ok
      { ending := course.ending number
        output := course.world.output.toList.map fun piece => (piece.stream, piece.bytes)
        files := course.world.files
        leaving := fun pieces => (run (some pieces)).world.files
        milliseconds := course.world.now / 1000 }

/-- The directories of a machine on which nothing but the utilities is installed, each after the one
that it stands in. -/
def installedDirectories : List String :=
  ["boot", "dev", "dev/pts", "dev/shm", "etc", "home", "media", "mnt", "opt", "proc", "proc/self",
    "proc/self/fd", "root", "run", "run/lock", "srv", "sys", "tmp", "usr", "usr/bin", "usr/games",
    "usr/include", "usr/lib", "usr/lib64", "usr/libexec", "usr/local", "usr/local/bin",
    "usr/local/etc", "usr/local/games", "usr/local/include", "usr/local/lib", "usr/local/sbin",
    "usr/local/share", "usr/local/src", "usr/sbin", "usr/share", "usr/src", "var", "var/backups",
    "var/cache", "var/lib", "var/local", "var/log", "var/mail", "var/opt", "var/spool", "var/tmp"]

def installedLinks : List (String × String) :=
  [("bin", "usr/bin"), ("lib", "usr/lib"), ("lib64", "usr/lib64"), ("sbin", "usr/sbin"),
    ("var/lock", "/run/lock"), ("var/run", "/run"), ("dev/fd", "/proc/self/fd"),
    ("dev/stdin", "/proc/self/fd/0"), ("dev/stdout", "/proc/self/fd/1"),
    ("dev/stderr", "/proc/self/fd/2")]

/-- The devices of that machine. The open files of a program are among them, and random bytes happen
to be NULs. -/
def installedDevices : List (String × Device) :=
  [("dev/full", .full), ("dev/null", .void), ("dev/random", .zero), ("dev/tty", .terminal),
    ("dev/urandom", .zero), ("dev/zero", .zero), ("proc/self/fd/0", .void),
    ("proc/self/fd/1", .void), ("proc/self/fd/2", .void)]

def installed : FileSystem :=
  let place (path : String) : Location := ⟨(Path.mk path).names⟩
  let directories := installedDirectories.map fun path => (place path, Node.directory)
  let programs := utilityNames.map fun name =>
    (place ("usr/bin/" ++ name), Node.file (utilityContent name) true)
  let devices := installedDevices.map fun (path, kind) => (place path, Node.device kind)
  let links := installedLinks.map fun (path, target) => (place path, Node.link ⟨target⟩)
  ⟨directories ++ links ++ programs ++ devices⟩

end CrossGen.Shell
