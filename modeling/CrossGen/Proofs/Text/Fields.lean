import CrossGen.Text.Fields
import Mathlib.Data.List.TakeDrop
import Mathlib.Data.List.TakeWhile

/-!
# Cutting and joining

Cutting a text at a separator and joining its fields again are inverse to each other, as far as no
field holds the separator itself.  Cutting once at the first separator loses nothing either.
-/

namespace CrossGen.Text

/-- The fields with one of them read in part are those that the library cuts. -/
theorem fieldsFrom_eq_splitOnPPrepend (sep : Char) (field cs : List Char) :
    fieldsFrom sep field cs = cs.splitOnPPrepend (· == sep) field := by
  induction cs generalizing field with
  | nil => rfl
  | cons c cs ih =>
      rw [fieldsFrom, List.splitOnPPrepend_cons_eq_if, ih, ih]
      by_cases h : c = sep
      · rw [if_pos h, if_pos (beq_iff_eq.mpr h)]
        rfl
      · rw [if_neg h, if_neg (mt beq_iff_eq.mp h)]

theorem fields_eq_map_splitOn (sep : Char) (text : String) :
    fields sep text = (text.toList.splitOn sep).map String.ofList := by
  rw [fields, fieldsFrom_eq_splitOnPPrepend]
  rfl

theorem fields_ne_nil (sep : Char) (text : String) : fields sep text ≠ [] := by
  rw [fields_eq_map_splitOn, Ne, List.map_eq_nil_iff]
  exact List.splitOn_ne_nil sep text.toList

theorem length_fields (sep : Char) (text : String) :
    (fields sep text).length = text.toList.count sep + 1 := by
  rw [fields, List.length_map, length_fieldsFrom]

theorem toList_joinFields (sep : Char) (parts : List String) :
    (joinFields sep parts).toList = [sep].intercalate (parts.map String.toList) := by
  rw [joinFields, String.toList_intercalate, String.toList_singleton]

theorem joinFields_singleton (sep : Char) (part : String) : joinFields sep [part] = part :=
  String.intercalate_singleton

theorem joinFields_cons_cons (sep : Char) (part next : String) (rest : List String) :
    joinFields sep (part :: next :: rest) =
      part ++ String.singleton sep ++ joinFields sep (next :: rest) :=
  String.intercalate_cons_cons

theorem joinFields_fields (sep : Char) (text : String) :
    joinFields sep (fields sep text) = text := by
  have hid : String.toList ∘ String.ofList = id := funext fun _ => String.toList_ofList
  apply String.toList_inj.mp
  rw [toList_joinFields, fields_eq_map_splitOn, List.map_map, hid, List.map_id,
    List.intercalate_splitOn]

theorem fields_joinFields
    {sep : Char} {parts : List String} (h : parts ≠ [])
    (hsep : ∀ part ∈ parts, sep ∉ part.toList) :
    fields sep (joinFields sep parts) = parts := by
  have hid : String.ofList ∘ String.toList = id := funext fun _ => String.ofList_toList
  have hsep' : ∀ cs ∈ parts.map String.toList, sep ∉ cs := by
    intro cs hcs
    obtain ⟨part, hpart, rfl⟩ := List.mem_map.mp hcs
    exact hsep part hpart
  rw [fields_eq_map_splitOn, toList_joinFields,
    List.splitOn_intercalate sep hsep' (mt List.map_eq_nil_iff.mp h), List.map_map, hid,
    List.map_id]

/-- No field holds the separator, if the one that is read in part does not. -/
theorem notMem_of_mem_fieldsFrom
    {sep : Char} {field cs part : List Char} (hfield : sep ∉ field)
    (h : part ∈ fieldsFrom sep field cs) : sep ∉ part := by
  induction cs generalizing field with
  | nil =>
      obtain rfl := List.mem_singleton.mp h
      simpa using hfield
  | cons c cs ih =>
      unfold fieldsFrom at h
      split at h
      · rcases List.mem_cons.mp h with rfl | hrest
        · simpa using hfield
        · exact ih List.not_mem_nil hrest
      · next hc =>
        have hread : sep ∉ c :: field := by
          simpa [Ne.symm hc] using hfield
        exact ih hread h

theorem notMem_of_mem_fields {sep : Char} {text field : String} (h : field ∈ fields sep text) :
    sep ∉ field.toList := by
  obtain ⟨part, hpart, rfl⟩ := List.mem_map.mp h
  rw [String.toList_ofList]
  exact notMem_of_mem_fieldsFrom List.not_mem_nil hpart

/-- The fields of a text are the only ones without the separator that are joined to it. -/
theorem fields_eq_iff {sep : Char} {text : String} {parts : List String} :
    fields sep text = parts ↔
      parts ≠ [] ∧ (∀ part ∈ parts, sep ∉ part.toList) ∧ joinFields sep parts = text := by
  constructor
  · rintro rfl
    exact ⟨fields_ne_nil sep text, fun _ => notMem_of_mem_fields, joinFields_fields sep text⟩
  · rintro ⟨hne, hsep, rfl⟩
    exact fields_joinFields hne hsep

/-- Every separator divides the fields in front of it from those behind it. -/
theorem fields_append (sep : Char) (before after : String) :
    fields sep (before ++ String.singleton sep ++ after) = fields sep before ++ fields sep after := by
  rw [fields_eq_iff]
  refine ⟨List.append_ne_nil_of_left_ne_nil (fields_ne_nil sep before) _, ?_, ?_⟩
  · intro part hpart
    rcases List.mem_append.mp hpart with hbefore | hafter
    · exact notMem_of_mem_fields hbefore
    · exact notMem_of_mem_fields hafter
  · rw [joinFields, String.intercalate_append_of_ne_nil (fields_ne_nil sep before)
      (fields_ne_nil sep after)]
    exact congrArg₂ (fun first second => first ++ String.singleton sep ++ second)
      (joinFields_fields sep before) (joinFields_fields sep after)

theorem joinFields_append_cons (sep : Char) (before first : String) (rest : List String) :
    joinFields sep ((before ++ first) :: rest) = before ++ joinFields sep (first :: rest) :=
  String.intercalate_cons_append

/-- The first field is empty if there is no text or it begins with a separator. -/
theorem head?_fields_eq_empty_iff {sep : Char} {text : String} :
    (fields sep text).head? = some "" ↔ text.toList.head?.all (· == sep) = true := by
  rw [fields_eq_map_splitOn, List.splitOn]
  cases text.toList with
  | nil => simp
  | cons c cs =>
      obtain ⟨first, rest, hrest⟩ := List.exists_cons_of_ne_nil
        (List.splitOnP_ne_nil (· == sep) cs)
      rw [List.splitOnP_cons_eq_if_modifyHead, hrest]
      by_cases h : (c == sep) = true
      · simp [h]
      · simp [h]

/-- A text is cut at the first separator, and nothing but that is lost. -/
theorem cutAt?_eq_some_iff {sep : Char} {text before after : String} :
    cutAt? sep text = some (before, after) ↔
      text = before ++ String.singleton sep ++ after ∧ sep ∉ before.toList := by
  unfold cutAt?
  rw [List.span_eq_takeWhile_dropWhile]
  constructor
  · intro h
    cases hdrop : text.toList.dropWhile (· != sep) with
    | nil =>
        rw [hdrop] at h
        cases h
    | cons c rest =>
        rw [hdrop] at h
        cases h
        have hc := List.head?_dropWhile_not (· != sep) text.toList
        rw [hdrop] at hc
        have heq : c = sep := by simpa using hc
        refine ⟨String.toList_inj.mp ?_, ?_⟩
        · simp [← heq, ← hdrop]
        · intro hmem
          rw [String.toList_ofList] at hmem
          simpa using List.mem_takeWhile_imp hmem
  · rintro ⟨rfl, hsep⟩
    have hbefore : ∀ c ∈ before.toList, (c != sep) = true := by
      intro c hc
      simpa using fun heq : c = sep => hsep (heq ▸ hc)
    have htext : (before ++ String.singleton sep ++ after).toList =
        before.toList ++ sep :: after.toList := by
      simp
    rw [htext, List.takeWhile_append_of_pos hbefore, List.dropWhile_append_of_pos hbefore]
    simp

theorem cutAt?_eq_none_iff {sep : Char} {text : String} :
    cutAt? sep text = none ↔ sep ∉ text.toList := by
  constructor
  · intro h hmem
    obtain ⟨before, after, hsplit, hbefore⟩ := List.eq_append_cons_of_mem hmem
    have hcut : cutAt? sep text = some (String.ofList before, String.ofList after) := by
      rw [cutAt?_eq_some_iff]
      constructor
      · apply String.toList_inj.mp
        simp [hsplit]
      · simpa using hbefore
    rw [h] at hcut
    cases hcut
  · intro hsep
    cases hcut : cutAt? sep text with
    | none => rfl
    | some parts =>
        obtain ⟨before, after⟩ := parts
        obtain ⟨rfl, -⟩ := cutAt?_eq_some_iff.mp hcut
        exact absurd (by simp) hsep

end CrossGen.Text
