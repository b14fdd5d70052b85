/-!
# Fields between separators

Cutting a text at every occurrence of one separator character, and joining fields again. A text
with `n` separators has `n + 1` fields, some of which may be empty.
-/

namespace CrossGen.Text

/-- The fields of `cs`, where `field` holds the characters of the first one read so far, the last
of them in front. -/
def fieldsFrom (sep : Char) (field : List Char) : List Char → List (List Char)
  | [] => [field.reverse]
  | c :: cs =>
    if c = sep then field.reverse :: fieldsFrom sep [] cs else fieldsFrom sep (c :: field) cs

/-- There is one more field than there are separators. -/
theorem length_fieldsFrom (sep : Char) (field cs : List Char) :
    (fieldsFrom sep field cs).length = cs.count sep + 1 := by
  induction cs generalizing field with
  | nil => rfl
  | cons c cs ih =>
    unfold fieldsFrom
    split
    · next h => rw [List.length_cons, ih, h, List.count_cons_self]
    · next h => rw [ih, List.count_cons_of_ne (by simpa using h)]

/-- The fields of `text` between the occurrences of `sep`. -/
def fields (sep : Char) (text : String) : List String :=
  (fieldsFrom sep [] text.toList).map String.ofList

/-- The given fields with one `sep` between each two. -/
def joinFields (sep : Char) (parts : List String) : String :=
  String.intercalate (String.singleton sep) parts

/-- The parts of `text` before and after the first occurrence of `sep`. -/
def cutAt? (sep : Char) (text : String) : Option (String × String) :=
  match text.toList.span (· != sep) with
  | (_, []) => none
  | (before, _ :: after) => some (String.ofList before, String.ofList after)

end CrossGen.Text
