import CrossGen.Target.Shape

/-!
# The target matrix

The targets of a run in order, each with the compiler that it is to use, resolved from the
environment and checked before anything runs. The pair of lists is folded into entries at once, so
that no index into either list is kept.
-/

namespace CrossGen

def compilerVariable : String := "ZSTD_GEN_CC"

/-- The variables that may name the operating system of a single target, the first one first. -/
def systemChain : List String := ["TARGET_GOOS", "GOOS"]

/-- The variables that may name the architecture of a single target, the first one first. -/
def archChain : List String := ["TARGET_GOARCH", "GOARCH"]

/-- A target with the compiler that it is transpiled with, if it has one of its own. -/
structure Entry where
  target : Target
  compiler : Option String
deriving DecidableEq, Repr

/-- The targets of a run, and the way in which they were resolved. -/
structure Matrix where
  shape : Shape
  entries : List Entry
deriving DecidableEq, Repr

namespace Matrix

/-- The keys of the targets in order. -/
def keys (matrix : Matrix) : List String :=
  matrix.entries.map fun entry => entry.target.key

/-- The tokens of the list of targets. An empty first token stands for the platform itself. -/
def tokens (env : Environment) (platform : Platform) : List String :=
  match Text.fields ';' ((env.lookup? targetsVariable).getD "") with
  | [] => []
  | first :: rest => (if first.isEmpty then platform.key else first) :: rest

/-- The compilers of the list of compilers, where an empty field stands for none. If there is no
list, none of `count` targets has a compiler. -/
def compilers (env : Environment) (count : Nat) : List (Option String) :=
  match env.value? compilersVariable with
  | none => List.replicate count none
  | some list =>
    (Text.fields ';' list).map fun compiler => if compiler.isEmpty then none else some compiler

/-- The entry of a token and its compiler. -/
def listEntry (pair : String × Option String) : Except TargetError Entry :=
  match Target.parse pair.1 with
  | .error e => .error e
  | .ok target =>
    match Shape.matrix.check target with
    | .error e => .error e
    | .ok () => .ok ⟨target, pair.2⟩

/-- The matrix of the two lists. Their lengths are compared before any token is read. -/
def resolveLists (env : Environment) (platform : Platform) : Except TargetError Matrix :=
  let tokens := tokens env platform
  let compilers := compilers env tokens.length
  if compilers.length ≠ tokens.length then
    .error (.listMismatch tokens.length compilers.length)
  else
    match (tokens.zip compilers).mapM listEntry with
    | .error e => .error e
    | .ok entries => .ok ⟨.matrix, entries⟩

/-- The matrix of the one target that the chains of variables name, or else the platform. -/
def resolveSingle (env : Environment) (platform : Platform) : Except TargetError Matrix :=
  match OperatingSystem.parse (env.firstValueD systemChain platform.system) with
  | .error e => .error e
  | .ok system =>
    let target : Target := ⟨system, env.firstValueD archChain platform.arch⟩
    match Shape.single.check target with
    | .error e => .error e
    | .ok () => .ok ⟨.single, [⟨target, env.value? compilerVariable⟩]⟩

/-- The matrix that the environment asks for. -/
def resolve (env : Environment) (platform : Platform) : Except TargetError Matrix :=
  match Shape.select env with
  | .error e => .error e
  | .ok .matrix => resolveLists env platform
  | .ok .single => resolveSingle env platform

end Matrix

end CrossGen
