import CrossGen.Proofs.Target.Key
import CrossGen.Target.Encoding
import Mathlib.Data.List.Forall2
import Mathlib.Data.List.Nodup
import Mathlib.Data.List.Perm.Basic

/-!
# The spellings of a matrix

A matrix has many spellings as JSON: the fields of an object may stand in any order and among others
that are not known, an absent compiler may be left out, a record may be an array, and a constant may
be an object.  All of them, and no other values, are decoded to the matrix, and what is encoded is
one of them.
-/

namespace CrossGen

namespace Json

/-! ## Constants and texts -/

inductive WritesConstant (name : String) : Json → Prop
  | text : WritesConstant name (.string name)
  | object : WritesConstant name (.object [(name, .null)])

theorem constant?_eq_some_iff {value : Json} {name : String} :
    value.constant? = some name ↔ WritesConstant name value := by
  constructor
  · intro h
    unfold constant? at h
    split at h
    · cases h
      exact .text
    · cases h
      exact .object
    · cases h
  · intro h
    cases h with
    | text => rfl
    | object => rfl

theorem text?_eq_some_iff {value : Json} {text : String} :
    value.text? = some text ↔ value = .string text := by
  constructor
  · intro h
    unfold text? at h
    split at h
    · rw [Option.some.inj h]
    · cases h
  · rintro rfl
    rfl

theorem optionalText?_eq_some_iff {value : Option Json} {text : Option String} :
    optionalText? value = some text ↔
      value = some (ofText? text) ∨ value = none ∧ text = none := by
  constructor
  · intro h
    unfold optionalText? at h
    split at h
    · exact .inr ⟨rfl, (Option.some.inj h).symm⟩
    · exact .inl (by rw [← Option.some.inj h]; rfl)
    · exact .inl (by rw [← Option.some.inj h]; rfl)
    · cases h
  · rintro (rfl | ⟨rfl, rfl⟩)
    · cases text <;> rfl
    · rfl

/-! ## Records -/

def present (fields : List (String × Option Json)) : List (String × Json) :=
  fields.filterMap fun field => field.2.map fun value => (field.1, value)

/-- The ways to write a record: as an object with those of its fields that have a value, in any
order and beside fields of other names, or as the array of the values of all its fields in their
order. -/
inductive WritesRecord (fields : List (String × Option Json)) : Json → Prop
  | object {written others : List (String × Json)}
      (hfields : written.Perm (present fields ++ others))
      (hothers : ∀ other ∈ others, other.1 ∉ fields.map Prod.fst) :
      WritesRecord fields (.object written)
  | array {items : List Json} (hitems : fields.map Prod.snd = items.map some) :
      WritesRecord fields (.array items)

theorem mem_present_iff {fields : List (String × Option Json)} {name : String} {value : Json} :
    (name, value) ∈ present fields ↔ (name, some value) ∈ fields := by
  simp [present]

theorem map_fst_present_sublist (fields : List (String × Option Json)) :
    ((present fields).map Prod.fst).Sublist (fields.map Prod.fst) := by
  induction fields with
  | nil => exact List.Sublist.refl _
  | cons field rest ih =>
      obtain ⟨name, value⟩ := field
      cases value with
      | none => exact ih.cons name
      | some value => exact ih.cons_cons name

theorem countP_name (name : String) (fields : List (String × Json)) :
    fields.countP (fun field => field.1 == name) = (fields.map Prod.fst).count name := by
  rw [List.count, List.countP_map]
  rfl

/-- The value of a field that is not repeated is the one that is written for its name. -/
theorem field?_eq_some_iff
    {name : String} {value : Json} {fields : List (String × Json)}
    (honce : fields.countP (fun field => field.1 == name) ≤ 1) :
    field? name fields = some value ↔ (name, value) ∈ fields := by
  induction fields with
  | nil => simp [field?]
  | cons field rest ih =>
      obtain ⟨other, first⟩ := field
      by_cases hname : other = name
      · subst hname
        have hrest : (rest.map Prod.fst).count other = 0 := by
          rw [← countP_name]
          rw [List.countP_cons_of_pos (by simp)] at honce
          omega
        have hnot : (other, value) ∉ rest := by
          intro hmem
          exact List.count_eq_zero.mp hrest (List.mem_map_of_mem hmem)
        have hfound : field? other ((other, first) :: rest) = some first := by
          simp [field?]
        rw [hfound, Option.some_inj, List.mem_cons, Prod.mk.injEq]
        constructor
        · rintro rfl
          exact .inl ⟨rfl, rfl⟩
        · rintro (⟨-, rfl⟩ | hmem)
          · rfl
          · exact absurd hmem hnot
      · have hskip : field? name ((other, first) :: rest) = field? name rest := by
          simp [field?, hname]
        have hcount : rest.countP (fun field => field.1 == name) ≤ 1 := by
          rwa [List.countP_cons_of_neg (by simpa using hname)] at honce
        rw [hskip, ih hcount, List.mem_cons, Prod.mk.injEq]
        constructor
        · exact .inr
        · rintro (⟨rfl, -⟩ | hmem)
          · exact absurd rfl hname
          · exact hmem

theorem hasNoRepeats_iff {names : List String} {written : List (String × Json)} :
    hasNoRepeats names written = true ↔
      ∀ name ∈ names, written.countP (fun field => field.1 == name) ≤ 1 := by
  simp [hasNoRepeats]

theorem record?_object_eq_some_iff
    {fields : List (String × Option Json)} {written : List (String × Json)} :
    record? (fields.map Prod.fst) (.object written) = some (fields.map Prod.snd) ↔
      ∀ field ∈ fields, written.countP (fun other => other.1 == field.1) ≤ 1 ∧
        field? field.1 written = field.2 := by
  have hvalues : (fields.map Prod.fst).map (fun name => field? name written) =
      fields.map Prod.snd ↔ ∀ field ∈ fields, field? field.1 written = field.2 := by
    rw [List.map_map, List.map_inj_left]
    rfl
  have hobject : record? (fields.map Prod.fst) (.object written) =
      if hasNoRepeats (fields.map Prod.fst) written then
        some ((fields.map Prod.fst).map fun name => field? name written) else none := rfl
  rw [hobject]
  constructor
  · intro h
    by_cases honce : hasNoRepeats (fields.map Prod.fst) written
    · rw [if_pos honce] at h
      intro field hfield
      exact ⟨hasNoRepeats_iff.mp honce field.1 (List.mem_map_of_mem hfield),
        hvalues.mp (Option.some.inj h) field hfield⟩
    · rw [if_neg honce] at h
      cases h
  · intro h
    have honce : hasNoRepeats (fields.map Prod.fst) written = true := by
      apply hasNoRepeats_iff.mpr
      intro name hname
      obtain ⟨field, hfield, rfl⟩ := List.mem_map.mp hname
      exact (h field hfield).1
    rw [if_pos honce, hvalues.mpr fun field hfield => (h field hfield).2]

theorem record?_array_eq_some_iff {fields : List (String × Option Json)} {items : List Json} :
    record? (fields.map Prod.fst) (.array items) = some (fields.map Prod.snd) ↔
      fields.map Prod.snd = items.map some := by
  have harray : record? (fields.map Prod.fst) (.array items) =
      if items.length = (fields.map Prod.fst).length then some (items.map some) else none := rfl
  rw [harray]
  constructor
  · intro h
    by_cases hlength : items.length = (fields.map Prod.fst).length
    · rw [if_pos hlength] at h
      exact (Option.some.inj h).symm
    · rw [if_neg hlength] at h
      cases h
  · intro hitems
    have hlength : items.length = (fields.map Prod.fst).length := by
      have hmapped := congrArg List.length hitems
      simp only [List.length_map] at hmapped ⊢
      exact hmapped.symm
    rw [if_pos hlength, hitems]

/-- The fields of an object that are known are those of the record that have a value. -/
theorem filter_perm_present
    {fields : List (String × Option Json)} {written : List (String × Json)}
    (hnames : (fields.map Prod.fst).Nodup)
    (h : ∀ field ∈ fields, written.countP (fun other => other.1 == field.1) ≤ 1 ∧
      field? field.1 written = field.2) :
    (written.filter fun other => other.1 ∈ fields.map Prod.fst).Perm (present fields) := by
  have hwritten : (written.filter fun other => other.1 ∈ fields.map Prod.fst).Nodup := by
    apply List.Nodup.of_map Prod.fst
    rw [List.nodup_iff_count_le_one]
    intro name
    rw [← countP_name, List.countP_filter]
    by_cases hname : name ∈ fields.map Prod.fst
    · obtain ⟨field, hfield, rfl⟩ := List.mem_map.mp hname
      refine le_trans (List.countP_mono_left ?_) (h field hfield).1
      intro other _ hother
      simp only [Bool.and_eq_true] at hother
      exact hother.1
    · have hnone : written.countP (fun other => other.1 == name &&
          decide (other.1 ∈ fields.map Prod.fst)) = 0 := by
        rw [List.countP_eq_zero]
        intro other _ hother
        simp only [Bool.and_eq_true, beq_iff_eq, decide_eq_true_eq] at hother
        exact hname (hother.1 ▸ hother.2)
      omega
  have hpresent : (present fields).Nodup :=
    List.Nodup.of_map Prod.fst (hnames.sublist (map_fst_present_sublist fields))
  rw [List.perm_ext_iff_of_nodup hwritten hpresent]
  rintro ⟨name, value⟩
  rw [List.mem_filter, mem_present_iff]
  constructor
  · rintro ⟨hmem, hname⟩
    obtain ⟨⟨_, stored⟩, hfield, rfl⟩ := List.mem_map.mp (of_decide_eq_true hname)
    obtain ⟨honce, hstored⟩ := h _ hfield
    rw [(field?_eq_some_iff honce).mpr hmem] at hstored
    rwa [hstored]
  · intro hfield
    obtain ⟨honce, hstored⟩ := h _ hfield
    exact ⟨(field?_eq_some_iff honce).mp hstored,
      decide_eq_true (List.mem_map_of_mem hfield)⟩

theorem countP_le_one_of_perm
    {fields : List (String × Option Json)} {written others : List (String × Json)}
    (hnames : (fields.map Prod.fst).Nodup) (hfields : written.Perm (present fields ++ others))
    (hothers : ∀ other ∈ others, other.1 ∉ fields.map Prod.fst)
    {name : String} (hname : name ∈ fields.map Prod.fst) :
    written.countP (fun field => field.1 == name) ≤ 1 := by
  have hpresent : ((present fields).map Prod.fst).count name ≤ 1 :=
    List.nodup_iff_count_le_one.mp (hnames.sublist (map_fst_present_sublist fields)) name
  have hnone : others.countP (fun field => field.1 == name) = 0 := by
    rw [List.countP_eq_zero]
    intro other hother hsame
    have heq : other.1 = name := by simpa using hsame
    exact hothers other hother (heq ▸ hname)
  rw [hfields.countP_eq, List.countP_append, hnone, countP_name]
  exact hpresent

theorem field?_of_perm
    {fields : List (String × Option Json)} {written others : List (String × Json)}
    (hnames : (fields.map Prod.fst).Nodup) (hfields : written.Perm (present fields ++ others))
    (hothers : ∀ other ∈ others, other.1 ∉ fields.map Prod.fst)
    {name : String} {stored : Option Json} (hfield : (name, stored) ∈ fields) :
    field? name written = stored := by
  have hname : name ∈ fields.map Prod.fst := List.mem_map_of_mem hfield
  have honce := countP_le_one_of_perm hnames hfields hothers hname
  have hmem : ∀ value, field? name written = some value ↔ stored = some value := by
    intro value
    rw [field?_eq_some_iff honce, hfields.mem_iff, List.mem_append, mem_present_iff]
    constructor
    · rintro (hpresent | hother)
      · exact congrArg Prod.snd (List.inj_on_of_nodup_map hnames hfield hpresent rfl)
      · exact absurd hname (hothers _ hother)
    · rintro rfl
      exact .inl hfield
  exact Option.ext hmem

/-- A record is read from everything that it is written as, and from nothing else. -/
theorem record?_eq_some_iff
    {fields : List (String × Option Json)} (hnames : (fields.map Prod.fst).Nodup) {value : Json} :
    record? (fields.map Prod.fst) value = some (fields.map Prod.snd) ↔
      WritesRecord fields value := by
  constructor
  · intro h
    cases value with
    | object written =>
        have hread := record?_object_eq_some_iff.mp h
        have hknown := filter_perm_present hnames hread
        have hsplit : written.Perm (present fields ++
            written.filter fun other => !decide (other.1 ∈ fields.map Prod.fst)) :=
          ((List.filter_append_perm _ written).symm).trans (hknown.append_right _)
        apply WritesRecord.object hsplit
        intro other hother
        simpa using (List.mem_filter.mp hother).2
    | array items => exact .array (record?_array_eq_some_iff.mp h)
    | null | bool | number | string => cases h
  · intro h
    cases h with
    | object hfields hothers =>
        apply record?_object_eq_some_iff.mpr
        intro field hfield
        exact ⟨countP_le_one_of_perm hnames hfields hothers (List.mem_map_of_mem hfield),
          field?_of_perm hnames hfields hothers hfield⟩
    | array hitems => exact record?_array_eq_some_iff.mpr hitems

end Json

/-! ## Constants of a matrix -/

theorem OperatingSystem.ofName?_eq_some_iff {text : String} {system : OperatingSystem} :
    OperatingSystem.ofName? text = some system ↔ system.name = text := by
  constructor
  · exact name_of_ofName?
  · rintro rfl
    exact ofName?_name system

theorem OperatingSystem.ofJson?_eq_some_iff {value : Json} {system : OperatingSystem} :
    OperatingSystem.ofJson? value = some system ↔ Json.WritesConstant system.name value := by
  rw [OperatingSystem.ofJson?, Option.bind_eq_some_iff, ← Json.constant?_eq_some_iff]
  constructor
  · rintro ⟨text, htext, hsystem⟩
    rw [OperatingSystem.ofName?_eq_some_iff.mp hsystem]
    exact htext
  · intro htext
    exact ⟨system.name, htext, OperatingSystem.ofName?_name system⟩

theorem Shape.ofJson?_eq_some_iff {value : Json} {shape : Shape} :
    Shape.ofJson? value = some shape ↔ Json.WritesConstant shape.tag value := by
  have hfind : ∀ tag, ([Shape.matrix, Shape.single].find? fun shape => shape.tag == tag) =
      some shape ↔ shape.tag = tag := by
    intro tag
    constructor
    · intro h
      simpa using List.find?_some h
    · rintro rfl
      cases shape <;> decide
  rw [Shape.ofJson?, Option.bind_eq_some_iff, ← Json.constant?_eq_some_iff]
  constructor
  · rintro ⟨tag, htag, hshape⟩
    rw [(hfind tag).mp hshape]
    exact htag
  · intro htag
    exact ⟨shape.tag, htag, (hfind _).mpr rfl⟩

/-! ## Targets, entries and matrices -/

def Target.WrittenAs (target : Target) (value : Json) : Prop :=
  ∃ system, Json.WritesConstant target.system.name system ∧
    Json.WritesRecord [("os", some system), ("arch", some (.string target.arch))] value

/-- The spellings of an entry, in some of which an absent compiler is left out. -/
def Entry.WrittenAs (entry : Entry) (value : Json) : Prop :=
  ∃ target compiler, entry.target.WrittenAs target ∧
    (compiler = some (Json.ofText? entry.compiler) ∨ compiler = none ∧ entry.compiler = none) ∧
    Json.WritesRecord [("target", some target), ("compiler", compiler)] value

/-- The spellings of a matrix, in which the spellings of its parts may be mixed. -/
def Matrix.WrittenAs (matrix : Matrix) (value : Json) : Prop :=
  ∃ shape items, Json.WritesConstant matrix.shape.tag shape ∧
    List.Forall₂ Entry.WrittenAs matrix.entries items ∧
    Json.WritesRecord [("shape", some shape), ("entries", some (.array items))] value

theorem Target.ofJson?_eq_some_iff {value : Json} {target : Target} :
    Target.ofJson? value = some target ↔ target.WrittenAs value := by
  constructor
  · intro h
    unfold Target.ofJson? at h
    split at h
    · next system arch hrecord =>
      obtain ⟨known, hknown, h⟩ := Option.bind_eq_some_iff.mp h
      obtain ⟨text, htext, h⟩ := Option.bind_eq_some_iff.mp h
      cases h
      rw [Json.text?_eq_some_iff.mp htext] at hrecord
      exact ⟨system, OperatingSystem.ofJson?_eq_some_iff.mp hknown,
        (Json.record?_eq_some_iff (by simp)).mp hrecord⟩
    · cases h
  · rintro ⟨system, hsystem, hrecord⟩
    have hread : value.record? ["os", "arch"] = some [some system, some (.string target.arch)] :=
      (Json.record?_eq_some_iff (by simp)).mpr hrecord
    unfold Target.ofJson?
    rw [hread]
    dsimp only
    rw [OperatingSystem.ofJson?_eq_some_iff.mpr hsystem]
    rfl

theorem Entry.ofJson?_eq_some_iff {value : Json} {entry : Entry} :
    Entry.ofJson? value = some entry ↔ entry.WrittenAs value := by
  constructor
  · intro h
    unfold Entry.ofJson? at h
    split at h
    · next target compiler hrecord =>
      obtain ⟨read, hread, h⟩ := Option.bind_eq_some_iff.mp h
      obtain ⟨text, htext, h⟩ := Option.bind_eq_some_iff.mp h
      cases h
      exact ⟨target, compiler, Target.ofJson?_eq_some_iff.mp hread,
        Json.optionalText?_eq_some_iff.mp htext,
        (Json.record?_eq_some_iff (by simp)).mp hrecord⟩
    · cases h
  · rintro ⟨target, compiler, htarget, hcompiler, hrecord⟩
    have hread : value.record? ["target", "compiler"] = some [some target, compiler] :=
      (Json.record?_eq_some_iff (by simp)).mpr hrecord
    unfold Entry.ofJson?
    rw [hread]
    dsimp only
    rw [Target.ofJson?_eq_some_iff.mpr htarget, Json.optionalText?_eq_some_iff.mpr hcompiler]
    rfl

theorem Entry.mapM_ofJson?_eq_some_iff {items : List Json} {entries : List Entry} :
    items.mapM Entry.ofJson? = some entries ↔ List.Forall₂ Entry.WrittenAs entries items := by
  induction items generalizing entries with
  | nil => cases entries <;> simp
  | cons item rest ih =>
      rw [List.mapM_cons]
      constructor
      · intro h
        obtain ⟨entry, hentry, h⟩ := Option.bind_eq_some_iff.mp h
        obtain ⟨others, hothers, h⟩ := Option.bind_eq_some_iff.mp h
        cases h
        exact .cons (Entry.ofJson?_eq_some_iff.mp hentry) (ih.mp hothers)
      · intro h
        cases h with
        | cons hentry hothers =>
            rw [Entry.ofJson?_eq_some_iff.mpr hentry, ih.mpr hothers]
            rfl

theorem Matrix.ofJson?_eq_some_iff {value : Json} {matrix : Matrix} :
    Matrix.ofJson? value = some matrix ↔ matrix.WrittenAs value := by
  constructor
  · intro h
    unfold Matrix.ofJson? at h
    split at h
    · next shape items hrecord =>
      obtain ⟨known, hknown, h⟩ := Option.bind_eq_some_iff.mp h
      obtain ⟨entries, hentries, h⟩ := Option.bind_eq_some_iff.mp h
      cases h
      exact ⟨shape, items, Shape.ofJson?_eq_some_iff.mp hknown,
        Entry.mapM_ofJson?_eq_some_iff.mp hentries,
        (Json.record?_eq_some_iff (by simp)).mp hrecord⟩
    · cases h
  · rintro ⟨shape, items, hshape, hentries, hrecord⟩
    have hread : value.record? ["shape", "entries"] = some [some shape, some (.array items)] :=
      (Json.record?_eq_some_iff (by simp)).mpr hrecord
    unfold Matrix.ofJson?
    rw [hread]
    dsimp only
    rw [Shape.ofJson?_eq_some_iff.mpr hshape, Entry.mapM_ofJson?_eq_some_iff.mpr hentries]
    rfl

/-! ## What is encoded -/

theorem Json.writesRecord_object {fields : List (String × Option Json)} :
    WritesRecord fields (.object (present fields)) := by
  have hfields : (present fields).Perm (present fields ++ []) := by rw [List.append_nil]
  exact .object hfields nofun

theorem Target.writtenAs_toJson (target : Target) : target.WrittenAs target.toJson :=
  ⟨target.system.toJson, .text, Json.writesRecord_object⟩

theorem Entry.writtenAs_toJson (entry : Entry) : entry.WrittenAs entry.toJson :=
  ⟨entry.target.toJson, some (Json.ofText? entry.compiler), entry.target.writtenAs_toJson, .inl rfl,
    Json.writesRecord_object⟩

theorem Matrix.writtenAs_toJson (matrix : Matrix) : matrix.WrittenAs matrix.toJson := by
  refine ⟨matrix.shape.toJson, matrix.entries.map Entry.toJson, .text, ?_,
    Json.writesRecord_object⟩
  rw [List.forall₂_map_right_iff, List.forall₂_same]
  intro entry _
  exact entry.writtenAs_toJson

/-- What is encoded is decoded to the same matrix.  A value is decoded to a matrix exactly if it is
one of its spellings, however these are mixed, and what it is decoded to does not change when it is
encoded and decoded once more. -/
theorem matrix_is_decoded_from_its_spellings :
    (∀ matrix : Matrix, Matrix.ofJson? matrix.toJson = some matrix) ∧
    (∀ (matrix : Matrix) (value : Json),
      Matrix.ofJson? value = some matrix ↔ matrix.WrittenAs value) ∧
    ∀ value, ((Matrix.ofJson? value).bind fun matrix => Matrix.ofJson? matrix.toJson) =
      Matrix.ofJson? value := by
  have hencoded : ∀ matrix : Matrix, Matrix.ofJson? matrix.toJson = some matrix := by
    intro matrix
    exact Matrix.ofJson?_eq_some_iff.mpr matrix.writtenAs_toJson
  refine ⟨hencoded, ?_, ?_⟩
  · intro matrix value
    exact Matrix.ofJson?_eq_some_iff
  · intro value
    cases Matrix.ofJson? value with
    | none => rfl
    | some matrix => exact hencoded matrix

/-- A matrix with fields that are reordered, unknown, left out and unnamed. -/
example :
    Matrix.ofJson? (.object [("entries", .array [
        .object [("note", .null), ("target", .array [.object [("linux", .null)], .string "amd64"])],
        .array [.object [("arch", .string "arm64"), ("os", .string "darwin")], .string "clang"]]),
      ("shape", .string "single-target")]) =
      some ⟨.single, [⟨⟨.linux, "amd64"⟩, none⟩, ⟨⟨.darwin, "arm64"⟩, some "clang"⟩]⟩ := by
  decide

end CrossGen
