import CrossGen.Text.Fields

/-!
# Targets

A target is an operating system with an architecture. Only the operating system decides how the
transpiler is called; architectures are plain names. The key of a target joins the two names with an
underscore; since no operating system has an underscore in its name, the first underscore of a key
is the one in between, and the architecture may hold more of them.
-/

namespace CrossGen

/-! ## Why targets are refused -/

/-- A cause for which targets are refused. -/
inductive TargetError where
  /-- No operating system of this name can be generated for. -/
  | unknownSystem (name : String)
  /-- A token is not an operating system and an architecture with an underscore between. -/
  | malformed (token : String)
  /-- The way in which targets were resolved does not admit this one. -/
  | unsupported (target shape : String)
  /-- The list of targets and the list of compilers differ in length. -/
  | listMismatch (targets compilers : Nat)
  /-- The requested way to resolve targets is not known. -/
  | unknownMode (value : String)
deriving DecidableEq, Repr

/-- The text in which an error is reported. -/
def TargetError.message : TargetError → String
  | .unknownSystem name =>
    "unsupported target OS '" ++ name ++ "' (expected linux, darwin, or windows)"
  | .malformed token => "malformed target '" ++ token ++ "': expected <os>_<arch>"
  | .unsupported target shape =>
    "target " ++ target ++ " is not supported by the " ++ shape ++ " resolution shape"
  | .listMismatch targets compilers =>
    "ZSTD_GEN_TARGETS has " ++ toString targets ++ " entries but ZSTD_GEN_CCS has " ++
      toString compilers
  | .unknownMode value =>
    "unknown resolution mode '" ++ value ++ "' (expected matrix or single)"

/-! ## Operating systems and platforms -/

/-- An operating system that sources can be generated for. -/
inductive OperatingSystem where
  | linux
  | darwin
  | windows
deriving DecidableEq, Repr

namespace OperatingSystem

def all : List OperatingSystem :=
  [.linux, .darwin, .windows]

/-- The name of an operating system in targets and in the names of generated files. -/
def name : OperatingSystem → String
  | linux => "linux"
  | darwin => "darwin"
  | windows => "windows"

def ofName? (name : String) : Option OperatingSystem :=
  all.find? fun system => system.name == name

/-- The operating system of the given name, or why there is none. -/
def parse (name : String) : Except TargetError OperatingSystem :=
  match ofName? name with
  | some system => .ok system
  | none => .error (.unknownSystem name)

theorem ofName?_name (system : OperatingSystem) : ofName? system.name = some system := by
  cases system <;> decide

theorem name_of_ofName? {text : String} {system : OperatingSystem}
    (h : ofName? text = some system) :
    system.name = text := by
  simpa using List.find?_some h

end OperatingSystem

/-- The name that Go has for an operating system that a C toolchain calls `name`. -/
def goSystemName (name : String) : String :=
  if name = "macos" then "darwin" else name

/-- The name that Go has for an architecture that a C toolchain calls `name`. -/
def goArchName (name : String) : String :=
  if name = "x86_64" then "amd64"
  else if name = "aarch64" then "arm64"
  else if name = "x86" then "386"
  else if name = "powerpc64" then "ppc64"
  else name

/-- An operating system and an architecture by name, whether or not they can be generated for. -/
structure Platform where
  system : String
  arch : String
deriving DecidableEq, Repr

namespace Platform

/-- The token that stands for a platform in a list of targets. -/
def key (platform : Platform) : String :=
  platform.system ++ "_" ++ platform.arch

/-- The platform that the program itself runs on. -/
def native : Platform :=
  ⟨goSystemName "linux", goArchName "x86_64"⟩

end Platform

/-! ## Targets and their keys -/

/-- What sources are generated for: an operating system and the name of an architecture. -/
structure Target where
  system : OperatingSystem
  arch : String
deriving DecidableEq, Repr

namespace Target

/-- The key of a target, which stands for it in lists and in the names of generated files. -/
def key (target : Target) : String :=
  target.system.name ++ "_" ++ target.arch

/-- The form in which a target is shown to people. -/
def label (target : Target) : String :=
  target.system.name ++ "/" ++ target.arch

/-- The target whose key is `token`. Both names have to be nonempty, and the operating system has
to be a known one. -/
def parse (token : String) : Except TargetError Target :=
  match Text.cutAt? '_' token with
  | none => .error (.malformed token)
  | some (system, arch) =>
    if system.isEmpty || arch.isEmpty then .error (.malformed token)
    else
      match OperatingSystem.parse system with
      | .error e => .error e
      | .ok system => .ok ⟨system, arch⟩

end Target

end CrossGen
