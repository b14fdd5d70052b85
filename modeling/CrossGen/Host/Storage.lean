import CrossGen.Host.Walk

/-!
# Writing to a file system

Storing content under a path and making directories. Either request is refused as a whole or leaves
a file system in which one location has changed.
-/

namespace CrossGen.FileSystem

/-- The place that `p` leads to from the directory at `here`. -/
def place (fs : FileSystem) (here : Location) (p : Path) : Except IoError Place :=
  match start here p with
  | .error e => .error e
  | .ok from' => fs.walk longestChain from' p.steps

/-- The place of the directory that the last name of `p` stands in. -/
def placeAbove (fs : FileSystem) (here : Location) (p : Path) : Except IoError Place :=
  match start here p with
  | .error e => .error e
  | .ok from' => fs.walk longestChain from' p.names.dropLast

/-- Stores `content` at the location of a file, which stays executable if it was. A device keeps
nothing, and a sealed file refuses. -/
def overwrite (fs : FileSystem) (loc : Location) (content : ByteArray) :
    Except IoError FileSystem :=
  match fs.node? loc with
  | some (.file _ executable) => .ok (fs.put loc (.file content executable))
  | some (.sealed cause) => .error cause
  | some .directory => .error .isDirectory
  | some (.device .void) | some (.device .zero) => .ok fs
  | some (.device .full) => if content.isEmpty then .ok fs else .error .noSpace
  | some (.device .terminal) => .error .noSuchDevice
  | some (.link _) => .error .tooManyLinks
  | none => .error .notFound

/-- Stores `content` in the file that `p` leads to, which is made if only it is missing. A path that
ends in a separator never names a file, nor does a link to such a path. -/
def writeThrough (fs : FileSystem) (content : ByteArray) :
    Nat → Location → Path → Except IoError FileSystem
  | 0, _, _ => .error .tooManyLinks
  | links + 1, here, p =>
    match fs.placeAbove here p with
    | .error e => .error e
    | .ok (.vacancy ..) => .error .notFound
    | .ok (.node dir) =>
      if fs.node? dir ≠ some .directory then .error .notDirectory
      else if p.endsInSeparator then .error .isDirectory
      else
        match p.names.getLast? with
        | none => .error .isDirectory
        | some name =>
          if name = "." || name = ".." then .error .isDirectory
          else if longestName < name.utf8ByteSize then .error .nameTooLong
          else
            match fs.node? (dir.child name) with
            | none => .ok (fs.put (dir.child name) (.file content false))
            | some (.link target) =>
              match start dir target with
              | .error e => .error e
              | .ok from' => fs.writeThrough content links from' target
            | some _ => fs.overwrite (dir.child name) content

/-- Stores `content` in the file that `p` leads to. All links on the way there count together, so
that a walk along `p` has to get there as well. -/
def write (fs : FileSystem) (here : Location) (p : Path) (content : ByteArray) :
    Except IoError FileSystem :=
  match fs.writeThrough content (longestChain + 1) here p with
  | .error e => .error e
  | .ok written =>
    match fs.place here p with
    | .error e => .error e
    | .ok _ => .ok written

/-- Makes a directory at `p`, where nothing may stand yet. -/
def makeDirectory (fs : FileSystem) (here : Location) (p : Path) : Except IoError FileSystem :=
  match fs.placeAbove here p with
  | .error e => .error e
  | .ok (.vacancy ..) => .error .notFound
  | .ok (.node dir) =>
    match p.names.getLast? with
    | none => .error .alreadyExists
    | some name =>
      if fs.node? dir ≠ some .directory then .error .notDirectory
      else if name = "." || name = ".." then .error .alreadyExists
      else if longestName < name.utf8ByteSize then .error .nameTooLong
      else if (fs.node? (dir.child name)).isSome then .error .alreadyExists
      else .ok (fs.put (dir.child name) .directory)

/-- What a path leads to: content, nothing, or a directory that holds nothing. -/
inductive Finding where
  | content (bytes : ByteArray)
  | nothing
  | emptyDirectory
deriving DecidableEq

/-- The names of what stands in a directory. -/
def namesIn (fs : FileSystem) (dir : Location) : List String :=
  fs.entries.filterMap fun (loc, _) =>
    match dir.below? loc with
    | some [name] => some name
    | _ => none

/-- All that is found below the directory that `dir` leads to, by the names that lead there. Links
are followed as far as a path may follow them. -/
def findings (fs : FileSystem) (names : List String) : Nat → Path → List (List String × Finding)
  | 0, _ => []
  | depth + 1, dir =>
    match fs.locate .root dir with
    | .error _ => []
    | .ok loc =>
      (fs.namesIn loc).flatMap fun name =>
        let p := dir / name
        let found := names ++ [name]
        match fs.locate .root p with
        | .error _ => [(found, .nothing)]
        | .ok inner =>
          match fs.node? inner with
          | some .directory =>
            if (fs.namesIn inner).isEmpty then [(found, .emptyDirectory)]
            else fs.findings found depth p
          | _ =>
            match fs.contentAt inner with
            | .ok bytes => [(found, .content bytes)]
            | .error _ => [(found, .nothing)]

/-- All that is found below a directory. No path leads through more names than it has characters. -/
def below (fs : FileSystem) (dir : Path) : List (List String × Finding) :=
  fs.findings [] pathLimit dir

end CrossGen.FileSystem
