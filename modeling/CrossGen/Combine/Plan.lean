import CrossGen.Path

/-!
# What to combine

The plan for making one source file of many, and the two methods to carry it out.
-/

namespace CrossGen.Combine

/-- Which file to combine with the files that it includes, and how. Paths of the sources are
relative to the checkout, except for the input, which is relative to the directory of the script,
and the excluded headers, which are relative to any root. -/
structure Plan where
  scriptDirectory : Path
  input : Path
  roots : List Path
  excludes : List Path
  keepExcluded : Bool
  output : Path
deriving DecidableEq, Repr

def Plan.default : Plan :=
  { scriptDirectory := ⟨"build/single_file_libs"⟩
    input := ⟨"zstd-in.c"⟩
    roots := [⟨"lib"⟩]
    excludes := [⟨"legacy/zstd_legacy.h"⟩]
    keepExcluded := false
    output := ⟨"zstd.c"⟩ }

/-- How a plan is carried out: by the script that comes with the sources, or here. -/
inductive Method where
  | script
  | native
deriving DecidableEq, Repr

namespace Method

def name : Method → String
  | script => "script"
  | native => "native"

/-- The method of the given name, or why there is none. -/
def parse (text : String) : Except String Method :=
  match [script, native].find? fun method => method.name == text with
  | some method => .ok method
  | none => .error ("unknown combiner '" ++ text ++ "' (expected script or native)")

end Method

end CrossGen.Combine
