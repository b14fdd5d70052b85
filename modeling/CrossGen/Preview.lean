import CrossGen.Json
import CrossGen.Target.Encoding
import CrossGen.Toml
import CrossGen.Transpiler.Invocation

/-!
# Previews

What a run would do for each target, without running anything. The combined source does not exist
yet, so the place where it will be is named instead.
-/

namespace CrossGen

/-- The formats of a preview. -/
inductive PreviewFormat where
  | human
  | json
  | toml
deriving DecidableEq, Repr

def PreviewFormat.ofName? (name : String) : Option PreviewFormat :=
  if name = "human" then some .human
  else if name = "json" then some .json
  else if name = "toml" then some .toml
  else none

/-- What is done for one target. -/
structure PreviewItem where
  target : Target
  compiler : Option String
  output : Path
  args : List String
deriving DecidableEq, Repr

/-- What is done for each target of a matrix. -/
structure Preview where
  shape : Shape
  items : List PreviewItem
deriving DecidableEq, Repr

namespace PreviewItem

/-- The item of an entry, given where the combined source will be. -/
def ofEntry (configuration : Configuration) (shape : Shape) (input : Path) (entry : Entry) :
    Except TargetError PreviewItem :=
  match Invocation.build entry.target shape input configuration.output configuration.settings with
  | .error e => .error e
  | .ok invocation => .ok ⟨entry.target, entry.compiler, invocation.output, invocation.args⟩

def paragraph (item : PreviewItem) : String :=
  "\n  " ++ item.target.label ++ "\n" ++
    (match item.compiler with
      | some compiler => "    CC:     " ++ compiler ++ "\n"
      | none => "") ++
    "    output: " ++ item.output.text ++ "\n" ++
    "    flags:  " ++ " ".intercalate item.args ++ "\n"

/-- An item as a JSON object. An absent compiler has no field. -/
def toJson (item : PreviewItem) : Json :=
  .object
    ([("os", item.target.system.toJson), ("arch", .string item.target.arch)] ++
      (item.compiler.map fun compiler => ("compiler", .string compiler)).toList ++
      [("output", .string item.output.text), ("args", .array (item.args.map Json.string))])

/-- An item as the entries of a TOML table. -/
def toToml (item : PreviewItem) : Toml.Entries :=
  [("os", .single item.target.system.name), ("arch", .single item.target.arch)] ++
    (item.compiler.map fun compiler => ("compiler", .single compiler)).toList ++
    [("output", .single item.output.text), ("args", .several item.args)]

end PreviewItem

namespace Preview

/-- Where the combined source will be. -/
def input (configuration : Configuration) : Path :=
  (Path.mk "<workdir>").join configuration.plan.output

def make (configuration : Configuration) (matrix : Matrix) : Except TargetError Preview :=
  match matrix.entries.mapM
      (PreviewItem.ofEntry configuration matrix.shape (input configuration)) with
  | .error e => .error e
  | .ok items => .ok ⟨matrix.shape, items⟩

def render (preview : Preview) : PreviewFormat → String
  | .human =>
    "Resolution: " ++ preview.shape.name ++ " (" ++ toString preview.items.length ++
      " target(s))\n" ++ String.join (preview.items.map PreviewItem.paragraph)
  | .json =>
    Json.pretty
        (.object
          [("shape", preview.shape.toJson),
            ("targets", .array (preview.items.map PreviewItem.toJson))]) ++
      "\n"
  | .toml =>
    Toml.Document.render
      { entries := [("shape", .single preview.shape.tag)]
        tables := [("targets", preview.items.map PreviewItem.toToml)] }

end Preview

end CrossGen
