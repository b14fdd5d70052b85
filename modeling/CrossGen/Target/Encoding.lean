import CrossGen.Json
import CrossGen.Target.Matrix

/-!
# Matrices as JSON

Matrices and their parts as JSON values. Encoding writes every record as an object with all its
fields. Decoding also takes a record as the array of all its fields in order, ignores fields that it
does not know, refuses those that it knows if they are repeated, takes a constant written as an object
with one null field, and reads an absent compiler as none where the record is an object.
-/

namespace CrossGen

namespace Json

/-- Whether an object has no more than one field of each of the given names. -/
def hasNoRepeats (names : List String) (fields : List (String × Json)) : Bool :=
  names.all fun name => fields.countP (fun field => field.1 == name) ≤ 1

/-- The values of the fields of a record, from an object that may lack some of them but repeats none,
or from an array that has all of them. -/
def record? (names : List String) : Json → Option (List (Option Json))
  | .object fields =>
    if hasNoRepeats names fields then some (names.map fun name => field? name fields) else none
  | .array items => if items.length = names.length then some (items.map some) else none
  | _ => none

/-- The name of a constant, written as a text or as an object with one null field. -/
def constant? : Json → Option String
  | .string name => some name
  | .object [(name, .null)] => some name
  | _ => none

def text? : Json → Option String
  | .string text => some text
  | _ => none

/-- A text or null, which may be absent. -/
def optionalText? : Option Json → Option (Option String)
  | none => some none
  | some .null => some none
  | some (.string text) => some (some text)
  | some _ => none

end Json

def OperatingSystem.toJson (system : OperatingSystem) : Json :=
  .string system.name

def OperatingSystem.ofJson? (value : Json) : Option OperatingSystem :=
  value.constant?.bind OperatingSystem.ofName?

/-- A shape as its tag. -/
def Shape.toJson (shape : Shape) : Json :=
  .string shape.tag

def Shape.ofJson? (value : Json) : Option Shape :=
  value.constant?.bind fun tag => [Shape.matrix, Shape.single].find? fun shape => shape.tag == tag

/-- A target as the object of its two names. -/
def Target.toJson (target : Target) : Json :=
  .object [("os", target.system.toJson), ("arch", .string target.arch)]

def Target.ofJson? (value : Json) : Option Target :=
  match value.record? ["os", "arch"] with
  | some [some system, some arch] => do
    return ⟨← OperatingSystem.ofJson? system, ← arch.text?⟩
  | _ => none

/-- An entry as an object. -/
def Entry.toJson (entry : Entry) : Json :=
  .object [("target", entry.target.toJson), ("compiler", Json.ofText? entry.compiler)]

def Entry.ofJson? (value : Json) : Option Entry :=
  match value.record? ["target", "compiler"] with
  | some [some target, compiler] => do
    return ⟨← Target.ofJson? target, ← Json.optionalText? compiler⟩
  | _ => none

def Matrix.toJson (matrix : Matrix) : Json :=
  .object [("shape", matrix.shape.toJson), ("entries", .array (matrix.entries.map Entry.toJson))]

def Matrix.ofJson? (value : Json) : Option Matrix :=
  match value.record? ["shape", "entries"] with
  | some [some shape, some (.array entries)] => do
    return ⟨← Shape.ofJson? shape, ← entries.mapM Entry.ofJson?⟩
  | _ => none

end CrossGen
