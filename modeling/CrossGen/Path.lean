/-!
# Paths

A path is kept as the text it was written as: nothing is normalised, and two spellings of one file
are two paths. Joining looks only at the ends of the two texts.
-/

namespace CrossGen

/-- A path to a file or directory, absolute or relative. -/
structure Path where
  text : String
deriving DecidableEq, Repr, Inhabited

namespace Path

/-- A path is absolute if it starts at the root. -/
def isAbsolute (p : Path) : Bool :=
  p.text.toList.head? == some '/'

/-- Whether nothing has to be put between `p` and a name under it. -/
def needsNoSeparator (p : Path) : Bool :=
  match p.text.toList.getLast? with
  | none => true
  | some c => c == '/'

/-- The path `name` as seen from the directory `dir`: an absolute name stands for itself, and
otherwise a separator is put in between where one is missing. -/
def join (dir name : Path) : Path :=
  if name.isAbsolute then name
  else if dir.needsNoSeparator then ⟨dir.text ++ name.text⟩
  else ⟨dir.text ++ "/" ++ name.text⟩

instance : HDiv Path String Path := ⟨fun dir name => dir.join ⟨name⟩⟩

/-- The nonempty names between the separators of a path, in order. -/
def names (p : Path) : List String :=
  let rec go (name : List Char) : List Char → List String
    | [] => if name.isEmpty then [] else [String.ofList name.reverse]
    | c :: cs =>
      if c = '/' then
        if name.isEmpty then go [] cs else String.ofList name.reverse :: go [] cs
      else go (c :: name) cs
  go [] p.text.toList

/-- Whether a path insists on naming a directory by ending in a separator. -/
def endsInSeparator (p : Path) : Bool :=
  p.text.toList.getLast? == some '/'

/-- The parts that count when paths are compared or shortened: `.` only counts in front of a
relative path. -/
def components (p : Path) : List String :=
  match p.names with
  | [] => []
  | first :: rest =>
    let rest := rest.filter (· != ".")
    if first == "." && p.isAbsolute then rest else first :: rest

def ofComponents (absolute : Bool) (parts : List String) : Path :=
  ⟨(if absolute then "/" else "") ++ String.intercalate "/" parts⟩

/-- The path and its parents, as far as they name anything, the longest first. -/
def ancestors (p : Path) : List Path :=
  let parts := p.components
  let parents := (List.range parts.length).reverse.filterMap fun n =>
    if n = 0 && !p.isAbsolute then none else some (ofComponents p.isAbsolute (parts.take n))
  if parts.isEmpty then if p.isAbsolute then [p] else [] else p :: parents

end Path

end CrossGen
