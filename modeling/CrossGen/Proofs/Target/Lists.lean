import CrossGen.Proofs.Target.Resolution

/-!
# The two lists encode the matrix

Entries are written as a list of keys and a list of compilers, and are read from them again as they
were.  The other way round, lists that are read are exactly those that are written for the entries
that they give, once the platform stands where it was left out.
-/

namespace CrossGen.Matrix

/-! ## Lists as texts -/

def targetList (entries : List Entry) : String :=
  Text.joinFields ';' (entries.map fun entry => entry.target.key)

/-- The list of compilers that is written for entries, with an empty field for each entry that has
none of its own. -/
def compilerList (entries : List Entry) : String :=
  Text.joinFields ';' (entries.map fun entry => entry.compiler.getD "")

/-- An entry that can be written into the lists. -/
structure Listable (entry : Entry) : Prop where
  system : entry.target.system = .linux ∨ entry.target.system = .darwin
  arch_ne_empty : entry.target.arch ≠ ""
  separator_notMem_arch : ';' ∉ entry.target.arch.toList
  compiler : ∀ name, entry.compiler = some name → name ≠ "" ∧ ';' ∉ name.toList

/-- A list of targets with the platform where its first token is empty. -/
def withPlatform (platform : Platform) (list : String) : String :=
  if list.toList.head?.all (· == ';') then platform.key ++ list else list

/-! ## The list of targets -/

/-- The tokens, joined again, are the list with the platform in its place. -/
theorem joinFields_tokens (env : Environment) (platform : Platform) :
    Text.joinFields ';' (tokens env platform) =
      withPlatform platform ((env.lookup? targetsVariable).getD "") := by
  have hjoin := Text.joinFields_fields ';' ((env.lookup? targetsVariable).getD "")
  have hempty : (Text.fields ';' ((env.lookup? targetsVariable).getD "")).head? = some "" ↔ _ :=
    Text.head?_fields_eq_empty_iff
  obtain ⟨first, rest, hfields⟩ := exists_fields_targets_eq env
  rw [hfields] at hjoin hempty
  rw [tokens_of_fields hfields, withPlatform]
  by_cases hfirst : first = ""
  · rw [if_pos hfirst, if_pos (hempty.mp (congrArg some hfirst)), ← hjoin, hfirst,
      ← Text.joinFields_append_cons, String.append_empty]
  · rw [if_neg hfirst, if_neg fun h => hfirst (Option.some.inj (hempty.mpr h)), hjoin]

/-- The tokens of the list that is written for entries are their keys. -/
theorem tokens_of_targetList
    {env : Environment} {entries : List Entry} (hne : entries ≠ [])
    (hlistable : ∀ entry ∈ entries, Listable entry)
    (h : env.lookup? targetsVariable = some (targetList entries)) (platform : Platform) :
    tokens env platform = entries.map fun entry => entry.target.key := by
  have hseparator : ∀ key ∈ entries.map (fun entry => entry.target.key), ';' ∉ key.toList := by
    intro key hkey
    obtain ⟨entry, hentry, rfl⟩ := List.mem_map.mp hkey
    have harch := (hlistable entry hentry).separator_notMem_arch
    rcases (hlistable entry hentry).system with hsystem | hsystem <;>
      simp [Target.key, hsystem, OperatingSystem.name, harch]
  have hfields : Text.fields ';' ((env.lookup? targetsVariable).getD "") =
      entries.map fun entry => entry.target.key := by
    rw [h, Option.getD_some, targetList, Text.fields_joinFields (by simpa using hne) hseparator]
  obtain ⟨entry, rest, rfl⟩ := List.exists_cons_of_ne_nil hne
  have hkey : entry.target.key ≠ "" := by simp [Target.key]
  rw [tokens_of_fields hfields, if_neg hkey, List.map_cons]

/-! ## The list of compilers -/

def compilerOf (field : String) : Option String :=
  if field.isEmpty then none else some field

theorem getD_compilerOf (field : String) : (compilerOf field).getD "" = field := by
  unfold compilerOf
  by_cases h : field = ""
  · rw [if_pos (by simpa using h), h]
    rfl
  · rw [if_neg (by simpa using h)]
    rfl

theorem Listable.compilerOf_getD {entry : Entry} (h : Listable entry) :
    compilerOf (entry.compiler.getD "") = entry.compiler := by
  unfold compilerOf
  cases hcompiler : entry.compiler with
  | none => rfl
  | some name => exact if_neg (by simpa using (h.compiler name hcompiler).1)

theorem compilers_of_value?
    {env : Environment} {list : String} (h : env.value? compilersVariable = some list)
    (count : Nat) :
    compilers env count = (Text.fields ';' list).map compilerOf := by
  rw [compilers, h]
  rfl

/-- An empty list of compilers is as good as none for a single target. -/
theorem compilers_of_lookup?
    {env : Environment} {list : String} (h : env.lookup? compilersVariable = some list) :
    compilers env (Text.fields ';' list).length = (Text.fields ';' list).map compilerOf := by
  by_cases hempty : list = ""
  · have hvalue : env.value? compilersVariable = none := by
      rw [Environment.value?, h, hempty]
      rfl
    rw [compilers, hvalue, hempty]
    rfl
  · apply compilers_of_value?
    rw [Environment.value?, h]
    simp [hempty]

theorem compilers_of_compilerList
    {env : Environment} {entries : List Entry} (hne : entries ≠ [])
    (hlistable : ∀ entry ∈ entries, Listable entry)
    (h : env.lookup? compilersVariable = some (compilerList entries)) :
    compilers env entries.length = entries.map Entry.compiler := by
  have hseparator :
      ∀ field ∈ entries.map (fun entry => entry.compiler.getD ""), ';' ∉ field.toList := by
    intro field hfield
    obtain ⟨entry, hentry, rfl⟩ := List.mem_map.mp hfield
    cases hcompiler : entry.compiler with
    | none => simp
    | some name => exact ((hlistable entry hentry).compiler name hcompiler).2
  have hfields : Text.fields ';' (compilerList entries) = _ :=
    Text.fields_joinFields (by simpa using hne) hseparator
  have hread := compilers_of_lookup? h
  rw [hfields, List.length_map, List.map_map] at hread
  rw [hread]
  exact List.map_congr_left fun entry hentry => (hlistable entry hentry).compilerOf_getD

theorem compilerList_of_value?
    {env : Environment} {list : String} {entries : List Entry}
    (h : env.value? compilersVariable = some list)
    (hentries : compilers env entries.length = entries.map Entry.compiler) :
    compilerList entries = list := by
  have hwritten : entries.map (fun entry => entry.compiler.getD "") =
      (entries.map Entry.compiler).map fun compiler => compiler.getD "" := by
    rw [List.map_map]
    rfl
  have hid : (fun compiler : Option String => compiler.getD "") ∘ compilerOf = id :=
    funext getD_compilerOf
  rw [compilerList, hwritten, ← hentries, compilers_of_value? h, List.map_map, hid, List.map_id,
    Text.joinFields_fields]

/-! ## Writing and reading -/

/-- The two lists encode the matrix: entries are read from the lists that are written for them, on
every platform, and lists that are read are those that are written for what they give, with the
platform in place of an empty first token. -/
theorem lists_encode_matrix :
    (∀ (entries : List Entry) (env : Environment) (platform : Platform), entries ≠ [] →
      (∀ entry ∈ entries, Listable entry) →
      env.lookup? targetsVariable = some (targetList entries) →
      env.lookup? compilersVariable = some (compilerList entries) →
        resolveLists env platform = .ok ⟨.matrix, entries⟩) ∧
    ∀ (env : Environment) (platform : Platform) (matrix : Matrix),
      resolveLists env platform = .ok matrix →
        targetList matrix.entries =
            withPlatform platform ((env.lookup? targetsVariable).getD "") ∧
          ∀ list, env.value? compilersVariable = some list →
            compilerList matrix.entries = list := by
  constructor
  · intro entries env platform hne hlistable htargets hcompilers
    refine resolveLists_eq_ok_iff.mpr ⟨rfl, tokens_of_targetList hne hlistable htargets platform,
      compilers_of_compilerList hne hlistable hcompilers, ?_⟩
    intro entry hentry
    refine ⟨(hlistable entry hentry).arch_ne_empty, ?_⟩
    rcases (hlistable entry hentry).system with hsystem | hsystem <;> rw [hsystem] <;> rfl
  · intro env platform matrix hresolve
    obtain ⟨-, htokens, hcompilers, -⟩ := resolveLists_eq_ok_iff.mp hresolve
    refine ⟨?_, fun list hlist => compilerList_of_value? hlist hcompilers⟩
    rw [← joinFields_tokens, htokens]
    rfl

/-! ### Three targets and a platform that nothing can be generated for -/

def threeEntries : List Entry :=
  [⟨⟨.linux, "amd64"⟩, some "gcc"⟩, ⟨⟨.darwin, "arm64"⟩, some "o64-clang"⟩,
    ⟨⟨.linux, "mips64_le"⟩, none⟩]

def threeLists : Environment :=
  .ofPairs [(targetsVariable, "linux_amd64;darwin_arm64;linux_mips64_le"),
    (compilersVariable, "gcc;o64-clang;")]

theorem listable_of_mem_threeEntries (entry : Entry) (h : entry ∈ threeEntries) :
    Listable entry := by
  simp only [threeEntries, List.mem_cons, List.not_mem_nil, or_false] at h
  rcases h with rfl | rfl | rfl
  · exact ⟨.inl rfl, by decide, by decide, by rintro name ⟨⟩; decide⟩
  · exact ⟨.inr rfl, by decide, by decide, by rintro name ⟨⟩; decide⟩
  · exact ⟨.inl rfl, by decide, by decide, nofun⟩

/-- Three entries are read from their lists, and their lists are written for them again. -/
theorem lists_encode_three_entries :
    resolveLists threeLists ⟨"plan9", "386"⟩ = .ok ⟨.matrix, threeEntries⟩ ∧
      targetList threeEntries = "linux_amd64;darwin_arm64;linux_mips64_le" ∧
      compilerList threeEntries = "gcc;o64-clang;" := by
  have htargets : threeLists.lookup? targetsVariable = some (targetList threeEntries) := by decide
  have hcompilers : threeLists.lookup? compilersVariable = some (compilerList threeEntries) := by
    decide
  have hread := lists_encode_matrix.1 threeEntries threeLists ⟨"plan9", "386"⟩ (by decide)
    listable_of_mem_threeEntries htargets hcompilers
  obtain ⟨hkeys, hnames⟩ := lists_encode_matrix.2 threeLists ⟨"plan9", "386"⟩ _ hread
  exact ⟨hread, hkeys.trans (by decide), hnames _ (by decide)⟩

end CrossGen.Matrix
