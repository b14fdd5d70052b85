import CrossGen.Shell.Descriptor
import CrossGen.Shell.Pattern

/-!
# Names of files by pattern

A word with special characters of a pattern that are not quoted stands for the paths that fit it,
name by name. Names that begin with a point only fit a pattern that does so too. If there are no such
paths, the word stands for itself.
-/

namespace CrossGen.Shell

/-- The text of a field, whose characters are marked if they are special. -/
def fieldText (field : List (Char × Bool)) : String :=
  String.ofList (field.map Prod.fst)

/-- Whether a field has special characters of a pattern. -/
def isPattern (field : List (Char × Bool)) : Bool :=
  field.any fun (c, special) => special && "*?[".toList.contains c

/-- The parts of a field between separators. -/
def splitField (part : List (Char × Bool)) : List (Char × Bool) → List (List (Char × Bool))
  | [] => [part.reverse]
  | (c, special) :: rest =>
    if c = '/' then part.reverse :: splitField [] rest
    else splitField ((c, special) :: part) rest

/-- Whether something stands at a path, be it only a link that leads nowhere. -/
def stands (files : FileSystem) (here : Location) (text : String) : Bool :=
  let p := hostPath text
  match files.placeAbove here p, p.names.getLast? with
  | .ok (.node dir), some name =>
    if p.endsInSeparator || name == "." || name == ".." then (files.locate here p).isOk
    else (files.node? (dir.child name)).isSome
  | .ok (.node _), none => p.isAbsolute
  | _, _ => false

/-- The names in a directory, as texts of a shell. -/
def namesAt (files : FileSystem) (here : Location) (text : String) : List String :=
  match files.locate here (hostPath (if text.isEmpty then "." else text)) with
  | .ok loc =>
    if files.node? loc == some .directory then
      "." :: ".." :: (files.namesIn loc).map Text.toOctets
    else []
  | .error _ => []

/-- The paths behind `before` that the parts of a field fit. -/
def matchParts (files : FileSystem) (here : Location) (before : String) :
    List (List (Char × Bool)) → List String
  | [] => []
  | [part] =>
    if isPattern part then
      (namesFitting part).map fun name => before ++ name
    else
      let path := before ++ fieldText part
      if stands files here path then [path] else []
  | part :: parts =>
    if isPattern part then
      (namesFitting part).flatMap fun name => matchParts files here (before ++ name ++ "/") parts
    else matchParts files here (before ++ fieldText part ++ "/") parts
where
  /-- The names that a part fits. -/
  namesFitting (part : List (Char × Bool)) : List String :=
    let pattern := Pattern.ofChars (part.map fun (c, special) => (c, !special))
    let isOpen := pattern.head? == some (.exactly '.')
    (namesAt files here before).filter fun name =>
      pattern.fits name.toList && (isOpen || !name.startsWith ".")

/-- The paths that a field stands for. -/
def matchField (files : FileSystem) (here : Location) (field : List (Char × Bool)) : List String :=
  if isPattern field then
    match matchParts files here "" (splitField [] field) with
    | [] => [fieldText field]
    | paths => paths.mergeSort fun a b => a ≤ b
  else [fieldText field]

end CrossGen.Shell
