import CrossGen.Host.IoError
import CrossGen.Path

/-!
# File systems

A file system gives a node to each of finitely many locations. A location is reached from the root
by names alone; paths, with their `.` and `..`, separators and symbolic links, are another matter
and are walked in the module on walks.
-/

namespace CrossGen

/-- A place in the tree of directories, by the names that lead to it from the root. -/
structure Location where
  names : List String
deriving DecidableEq, Repr, Inhabited

namespace Location

def root : Location := ⟨[]⟩

/-- The location of `name` in the directory at `dir`. -/
def child (dir : Location) (name : String) : Location :=
  ⟨dir.names ++ [name]⟩

/-- The directory that a location is in; the root is in itself. -/
def parent (loc : Location) : Location :=
  ⟨loc.names.dropLast⟩

/-- The absolute path of a location, without detours. -/
def path (loc : Location) : Path :=
  .ofComponents true loc.names

/-- The names that lead from `dir` down to `loc`, if `loc` is below it. -/
def below? (dir loc : Location) : Option (List String) :=
  if dir.names.isPrefixOf loc.names && dir.names.length < loc.names.length then
    some (loc.names.drop dir.names.length)
  else none

end Location

/-- Contents are compared byte by byte. -/
instance (priority := 2000) decidableEqContent : DecidableEq ByteArray :=
  ByteArray.instDecidableEq

/-- A file that keeps nothing of what is written to it: one that is always empty, one that gives NULs
without end, one that gives them too and has no room, and one that leads to a terminal that is not
there. -/
inductive Device where
  | void
  | zero
  | full
  | terminal
deriving DecidableEq, Repr

/-- What stands at a location. A sealed file is a regular file too, but every request to read or to
write it is refused for the given reason. -/
inductive Node where
  | directory
  | file (content : ByteArray) (executable : Bool)
  | sealed (cause : IoError)
  | link (target : Path)
  | device (kind : Device)
deriving DecidableEq, Inhabited

def Node.isFile : Node → Bool
  | file .. | sealed _ => true
  | _ => false

/-- The nodes at finitely many locations. -/
structure FileSystem where
  entries : List (Location × Node)
deriving Inhabited

namespace FileSystem

/-- The file system that has nothing but the root. -/
def empty : FileSystem := ⟨[]⟩

/-- The node at a location. The root is always a directory. -/
def node? (fs : FileSystem) (loc : Location) : Option Node :=
  if loc = .root then some .directory
  else (fs.entries.find? fun entry => entry.1 == loc).map Prod.snd

/-- The file system in which `node` stands at `loc` and all else is as before. -/
def put (fs : FileSystem) (loc : Location) (node : Node) : FileSystem :=
  ⟨(loc, node) :: fs.entries.filter fun entry => entry.1 != loc⟩

/-- The file system without the node at `loc` and all that is below it. -/
def remove (fs : FileSystem) (loc : Location) : FileSystem :=
  ⟨fs.entries.filter fun entry => !loc.names.isPrefixOf entry.1.names⟩

def fileLocations (fs : FileSystem) : List Location :=
  (fs.entries.filter fun entry => entry.2.isFile).map Prod.fst

theorem node?_put_self (fs : FileSystem) {loc : Location} (node : Node) (h : loc ≠ .root) :
    (fs.put loc node).node? loc = some node := by
  simp [node?, put, h]

theorem node?_put_of_ne (fs : FileSystem) {loc other : Location} (node : Node) (h : other ≠ loc) :
    (fs.put loc node).node? other = fs.node? other := by
  unfold node? put
  split
  · rfl
  · congr 1
    rw [List.find?_cons_of_neg (by simpa using fun heq => h heq.symm), List.find?_filter]
    congr 1
    funext entry
    by_cases heq : entry.1 = other
    · simp [heq, h]
    · simp [heq]

/-- Every regular file is at one of the listed locations. -/
theorem mem_fileLocations
    {fs : FileSystem} {loc : Location} {node : Node}
    (h : fs.node? loc = some node) (hfile : node.isFile = true) :
    loc ∈ fs.fileLocations := by
  unfold node? at h
  split at h
  · cases h
    cases hfile
  · obtain ⟨entry, hfind, rfl⟩ := Option.map_eq_some_iff.mp h
    have hloc : entry.1 = loc := by simpa using List.find?_some hfind
    exact hloc ▸ List.mem_map_of_mem
      (List.mem_filter.mpr ⟨List.mem_of_find?_eq_some hfind, hfile⟩)

end FileSystem

end CrossGen
