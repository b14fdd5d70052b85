import CrossGen.Host.FileSystem

/-!
# Walking along paths

A path leads from a directory, or from the root if it is absolute, over one name after the other.
Symbolic links are followed on the way, at most forty of them. The walk ends at a node or, when only
the last name is missing, at a vacancy where a node could be made.
-/

namespace CrossGen

/-- Where a walk ends. -/
inductive Place where
  | node (loc : Location)
  | vacancy (dir : Location) (name : String)
deriving DecidableEq, Repr

/-- The names to walk over. A separator at the end asks for a directory, as `.` does. -/
def Path.steps (p : Path) : List String :=
  if p.endsInSeparator && !p.names.isEmpty then p.names ++ ["."] else p.names

/-- The longest name that a directory can hold, in bytes. -/
def longestName : Nat := 255

/-- From this length in bytes on a path is not walked at all. -/
def pathLimit : Nat := 4096

/-- The number of symbolic links that one walk follows at most. -/
def longestChain : Nat := 40

namespace FileSystem

/-- The place that the given names lead to from the directory at `here`, where `follow` goes on from
a directory over the names of a link and those behind it. -/
def walkWith (fs : FileSystem) (follow : Location → List String → Except IoError Place)
    (here : Location) : List String → Except IoError Place
  | [] => .ok (.node here)
  | name :: rest =>
    match fs.node? here with
    | some .directory =>
      if name = "." then fs.walkWith follow here rest
      else if name = ".." then fs.walkWith follow here.parent rest
      else if longestName < name.utf8ByteSize then .error .nameTooLong
      else
        match fs.node? (here.child name) with
        | none => if rest.isEmpty then .ok (.vacancy here name) else .error .notFound
        | some (.link target) =>
          follow (if target.isAbsolute then .root else here) (target.steps ++ rest)
        | some _ => fs.walkWith follow (here.child name) rest
    | _ => .error .notDirectory

/-- The place that the given names lead to from a directory, following at most the given number of
symbolic links. -/
def walk (fs : FileSystem) : Nat → Location → List String → Except IoError Place
  | 0 => fs.walkWith fun _ _ => .error .tooManyLinks
  | links + 1 => fs.walkWith (fs.walk links)

/-- The start of a walk along `p` from the directory at `here`, or why there is none. -/
def start (here : Location) (p : Path) : Except IoError Location :=
  if p.text.isEmpty then .error .notFound
  else if p.text.toList.contains '\x00' then .error .nulInPath
  else if pathLimit ≤ p.text.utf8ByteSize then .error .nameTooLong
  else .ok (if p.isAbsolute then .root else here)

/-- The location of the node that `p` leads to from the directory at `here`. -/
def locate (fs : FileSystem) (here : Location) (p : Path) : Except IoError Location :=
  match start here p with
  | .error e => .error e
  | .ok from' =>
    match fs.walk longestChain from' p.steps with
    | .error e => .error e
    | .ok (.vacancy ..) => .error .notFound
    | .ok (.node loc) => .ok loc

/-- The location of the regular file that `p` leads to. -/
def fileAt? (fs : FileSystem) (here : Location) (p : Path) : Option Location :=
  match fs.locate here p with
  | .error _ => none
  | .ok loc => if (fs.node? loc).any Node.isFile then some loc else none

/-- Whether `p` leads to a regular file. -/
def isFile (fs : FileSystem) (here : Location) (p : Path) : Bool :=
  (fs.fileAt? here p).isSome

/-- Whether `p` leads to a directory. -/
def isDirectory (fs : FileSystem) (here : Location) (p : Path) : Bool :=
  match fs.locate here p with
  | .error _ => false
  | .ok loc => fs.node? loc == some .directory

/-- The content of the node at a location. A device without an end fills the memory first. -/
def contentAt (fs : FileSystem) (loc : Location) : Except IoError ByteArray :=
  match fs.node? loc with
  | some (.file content _) => .ok content
  | some (.sealed cause) => .error cause
  | some .directory => .error .isDirectory
  | some (.device .void) => .ok .empty
  | some (.device .zero) | some (.device .full) => .error .outOfMemory
  | some (.device .terminal) => .error .noSuchDevice
  | some (.link _) => .error .tooManyLinks
  | none => .error .notFound

/-- The content of the file that `p` leads to. -/
def read (fs : FileSystem) (here : Location) (p : Path) : Except IoError ByteArray :=
  match fs.locate here p with
  | .error e => .error e
  | .ok loc => fs.contentAt loc

theorem fileAt?_mem_fileLocations
    {fs : FileSystem} {here loc : Location} {p : Path} (h : fs.fileAt? here p = some loc) :
    loc ∈ fs.fileLocations := by
  unfold fileAt? at h
  split at h
  · cases h
  · split at h
    · next hfile =>
      cases h
      cases hnode : fs.node? loc with
      | none => simp [hnode] at hfile
      | some node => exact mem_fileLocations hnode (by simpa [hnode] using hfile)
    · cases h

end FileSystem

end CrossGen
