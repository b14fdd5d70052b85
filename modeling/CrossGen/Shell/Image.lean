import CrossGen.Environment
import CrossGen.Host.Walk
import CrossGen.Text.Fields
import CrossGen.Text.Utf8

/-!
# Program files

What makes a file a program: it is executable, and it either is a utility of the machine or starts
with a line that names the program that interprets it.
-/

namespace CrossGen.Shell

/-- A program that is ready to be started: a utility with the name that it is called by, and the
arguments that come before those that it is started with. -/
structure Image where
  utility : String
  called : String
  before : List String
deriving DecidableEq, Repr

/-- The bytes that the file of a utility starts with, which no text starts with. -/
def utilityMark : List UInt8 :=
  [0x7F, 0x45, 0x4C, 0x46, 0xFF]

def utilityContent (name : String) : ByteArray :=
  ⟨utilityMark.toArray⟩ ++ name.toUTF8

/-- The interpreter that the first line of a script names, and the argument that it is given. -/
def interpreterOf? (text : String) : Option (String × List String) :=
  match text.toList with
  | '#' :: '!' :: rest =>
    let isGap (c : Char) : Bool := c == ' ' || c == '\t'
    let line := (rest.takeWhile (· != '\n')).dropWhile isGap
    let interpreter := line.takeWhile (!isGap ·)
    let argument := (line.drop interpreter.length).dropWhile isGap
    let argument := (argument.reverse.dropWhile isGap).reverse
    if interpreter.isEmpty then none
    else
      some (String.ofList interpreter,
        if argument.isEmpty then [] else [String.ofList argument])
  | _ => none

/-- The image of the file at `p`, which is called by some name, through at most `depth`
interpreters, or why it is not a program. -/
def imageAt (files : FileSystem) (here : Location) :
    Nat → String → Path → Except IoError Image
  | 0, _, _ => .error .tooManyLinks
  | depth + 1, called, p => do
    let loc ← files.locate here p
    match files.node? loc with
    | some (.file content true) =>
      if (content.extract 0 utilityMark.length).toList = utilityMark then
        return ⟨Text.decodeLossy (content.extract utilityMark.length content.size), called, []⟩
      match interpreterOf? (Text.decodeLossy (content.extract 0 256)) with
      | none => throw .notRunnable
      | some (interpreter, argument) =>
        let image ← imageAt files here depth interpreter ⟨interpreter⟩
        return { image with before := image.before ++ argument ++ [p.text] }
    | some _ => throw .accessDenied
    | none => throw .notFound

/-- The depth up to which scripts may interpret scripts. -/
def interpreterDepth : Nat := 5

/-- The directories that programs are looked for in. -/
def searchPath (path : Option String) : List Path :=
  (Text.fields ':' (path.getD "/bin:/usr/bin")).map Path.mk

/-- The image of the first of the given paths that is a program. A path that is missing is passed
over; one that may not be run is only reported if there is no other. -/
def firstImage (files : FileSystem) (here : Location) (called : String) (refused : IoError) :
    List Path → Except IoError Image
  | [] => .error refused
  | p :: ps =>
    match imageAt files here interpreterDepth called p with
    | .ok image => .ok image
    | .error e =>
      if e = .accessDenied then firstImage files here called e ps
      else if e = .notFound || e = .notDirectory then firstImage files here called refused ps
      else .error e

/-- The image of the program of the given name. A name with a separator is a path. -/
def findImage (files : FileSystem) (here : Location) (path : Option String) (program : String) :
    Except IoError Image :=
  if program.isEmpty then .error .notFound
  else if program.toList.contains '/' then
    imageAt files here interpreterDepth program ⟨program⟩
  else if longestName < program.utf8ByteSize then .error .nameTooLong
  else
    firstImage files here program .notFound ((searchPath path).map fun dir => dir / program)

/-- The first path in the given directories at which an executable file stands, or why there is
none. -/
def findFile (files : FileSystem) (here : Location) (name : String) (refused : IoError) :
    List Path → Except IoError Path
  | [] => .error refused
  | dir :: dirs =>
    let p := dir / name
    match files.locate here p with
    | .error e =>
      findFile files here name (if e = .notFound || e = .notDirectory then refused else e) dirs
    | .ok loc =>
      match files.node? loc with
      | some (.file _ true) => .ok p
      | _ => findFile files here name .accessDenied dirs

end CrossGen.Shell
