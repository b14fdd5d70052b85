import CrossGen.Proofs.Target.Influence
import CrossGen.Proofs.Target.Lists
import CrossGen.Proofs.Target.Refusal

/-!
# Well-formed matrices

What is resolved can be relied on without another look at it.  Both shapes make sure that there are
entries and that they support all targets, and that nothing which has to have a name is without one.
The lists also make sure that their separator is in none of the names that are read from them; only a
platform that stands where the first name was left out may bring it along.
-/

namespace CrossGen.Matrix

variable {env : Environment} {platform : Platform} {matrix : Matrix}

/-! ## What a run relies on -/

theorem length_entries_of_resolveLists (h : resolveLists env platform = .ok matrix) :
    matrix.entries.length = ((env.lookup? targetsVariable).getD "").toList.count ';' + 1 := by
  obtain ⟨-, htokens, -, -⟩ := resolveLists_eq_ok_iff.mp h
  have hlength : (tokens env platform).length = matrix.entries.length := by
    rw [htokens, keys, List.length_map]
  rw [← hlength, length_tokens]
  rfl

/-- What a run takes for granted of a matrix, although it checks it again. -/
structure Sound (matrix : Matrix) : Prop where
  nonempty : matrix.entries ≠ []
  supported : ∀ entry ∈ matrix.entries, matrix.shape.supports entry.target.system = true

theorem sound_of_resolveLists (h : resolveLists env platform = .ok matrix) : matrix.Sound := by
  obtain ⟨hshape, -, -, hentries⟩ := resolveLists_eq_ok_iff.mp h
  have hlength := length_entries_of_resolveLists h
  constructor
  · exact List.ne_nil_of_length_eq_add_one hlength
  · intro entry hentry
    rw [hshape]
    exact (hentries entry hentry).2

theorem sound_of_resolveSingle (h : resolveSingle env platform = .ok matrix) : matrix.Sound := by
  obtain ⟨system, -, rfl⟩ := resolveSingle_eq_ok_iff.mp h
  constructor
  · exact List.cons_ne_nil _ _
  · intro entry hentry
    obtain rfl := List.mem_singleton.mp hentry
    cases system <;> rfl

theorem sound_of_resolve (h : resolve env platform = .ok matrix) : matrix.Sound := by
  unfold resolve at h
  split at h
  · cases h
  · exact sound_of_resolveLists h
  · exact sound_of_resolveSingle h

/-! ## What stands in the lists -/

/-- A target is that of the platform, which stands in place of an empty first token.  Its key is the one
of the platform, and so is its architecture, unless the key is cut within the name of the system. -/
structure Standing (env : Environment) (platform : Platform) (index : Nat) (target : Target) :
    Prop where
  index_eq : index = 0
  fallsBack : Shape.matrix.FallsBack env
  key_eq : target.key = platform.key
  arch_eq : '_' ∉ platform.system.toList → target.arch = platform.arch

theorem arch_eq_of_key_eq {target : Target} (h : target.key = platform.key)
    (hsystem : '_' ∉ platform.system.toList) : target.arch = platform.arch := by
  have hkey := target.cutAt?_key
  have hplatform : Text.cutAt? '_' platform.key = some (platform.system, platform.arch) :=
    Target.cutAt?_names hsystem platform.arch
  rw [h, hplatform] at hkey
  exact (congrArg Prod.snd (Option.some.inj hkey)).symm

/-- A token is a field of the list, or it stands for an empty first one. -/
theorem mem_fields_or_eq_key
    {index : Nat} {token : String} (h : (tokens env platform)[index]? = some token) :
    token ∈ Text.fields ';' ((env.lookup? targetsVariable).getD "") ∨
      index = 0 ∧ Shape.matrix.FallsBack env ∧ token = platform.key := by
  obtain ⟨first, rest, hfields⟩ := exists_fields_targets_eq env
  rw [tokens_of_fields hfields] at h
  rw [hfields]
  cases index with
  | zero =>
      rw [List.getElem?_cons_zero] at h
      have htoken := Option.some.inj h
      by_cases hfirst : first = ""
      · rw [if_pos hfirst] at htoken
        exact .inr ⟨rfl, (fallsBack_matrix_iff hfields).mpr hfirst, htoken.symm⟩
      · rw [if_neg hfirst] at htoken
        exact .inl (htoken ▸ List.mem_cons_self)
  | succ index =>
      rw [List.getElem?_cons_succ] at h
      exact .inl (List.mem_cons_of_mem _ (List.mem_of_getElem? h))

/-- No name that is read from the list of targets holds the separator of the list. -/
theorem notMem_arch_or_standing
    {index : Nat} {entry : Entry} (h : resolveLists env platform = .ok matrix)
    (hentry : matrix.entries[index]? = some entry) :
    ';' ∉ entry.target.arch.toList ∨ Standing env platform index entry.target := by
  obtain ⟨-, htokens, -, -⟩ := resolveLists_eq_ok_iff.mp h
  have htoken : (tokens env platform)[index]? = some entry.target.key := by
    rw [htokens, keys, List.getElem?_map, hentry]
    rfl
  rcases mem_fields_or_eq_key htoken with hfield | ⟨hindex, hfallsBack, hkey⟩
  · have hkey : ';' ∉ entry.target.key.toList := Text.notMem_of_mem_fields hfield
    have harch : entry.target.arch.toList ⊆ entry.target.key.toList := by
      intro c hc
      simp [Target.key, hc]
    exact .inl fun hmem => hkey (harch hmem)
  · exact .inr ⟨hindex, hfallsBack, hkey, arch_eq_of_key_eq hkey⟩

theorem name_of_mem_compilers {count : Nat} {name : String} (h : some name ∈ compilers env count) :
    name ≠ "" ∧ ';' ∉ name.toList := by
  cases hvalue : env.value? compilersVariable with
  | none =>
      rw [compilers, hvalue] at h
      cases (List.mem_replicate.mp h).2
  | some list =>
      rw [compilers_of_value? hvalue] at h
      obtain ⟨field, hfield, hcompiler⟩ := List.mem_map.mp h
      by_cases hempty : field = ""
      · rw [compilerOf, if_pos (by simpa using hempty)] at hcompiler
        cases hcompiler
      · rw [compilerOf, if_neg (by simpa using hempty)] at hcompiler
        obtain rfl := Option.some.inj hcompiler
        exact ⟨hempty, Text.notMem_of_mem_fields hfield⟩

theorem compiler_of_resolveLists
    {entry : Entry} {name : String} (h : resolveLists env platform = .ok matrix)
    (hentry : entry ∈ matrix.entries) (hname : entry.compiler = some name) :
    name ≠ "" ∧ ';' ∉ name.toList := by
  obtain ⟨-, -, hcompilers, -⟩ := resolveLists_eq_ok_iff.mp h
  have hmem : some name ∈ compilers env matrix.entries.length := by
    rw [hcompilers, ← hname]
    exact List.mem_map_of_mem hentry
  exact name_of_mem_compilers hmem

/-! ## Well-formed matrices -/

/-- What holds of a matrix that was resolved. -/
structure WellFormed (env : Environment) (platform : Platform) (matrix : Matrix) : Prop where
  selected : Shape.select env = .ok matrix.shape
  nonempty : matrix.entries ≠ []
  supported : ∀ entry ∈ matrix.entries, matrix.shape.supports entry.target.system = true
  arch_ne_empty : ∀ entry ∈ matrix.entries, entry.target.arch ≠ ""
  compiler_ne_empty : ∀ entry ∈ matrix.entries, entry.compiler ≠ some ""
  one_of_single : matrix.shape = .single → ∃ entry, matrix.entries = [entry]
  length_of_matrix : matrix.shape = .matrix →
    matrix.entries.length = ((env.lookup? targetsVariable).getD "").toList.count ';' + 1
  arch_of_matrix : matrix.shape = .matrix → ∀ index entry, matrix.entries[index]? = some entry →
    ';' ∉ entry.target.arch.toList ∨ Standing env platform index entry.target
  compiler_of_matrix : matrix.shape = .matrix → ∀ entry ∈ matrix.entries, ∀ name,
    entry.compiler = some name → ';' ∉ name.toList

theorem wellFormed_of_resolveLists
    (hselect : Shape.select env = .ok .matrix) (h : resolveLists env platform = .ok matrix) :
    WellFormed env platform matrix := by
  have hsound := sound_of_resolveLists h
  obtain ⟨hshape, -, -, hentries⟩ := resolveLists_eq_ok_iff.mp h
  exact
    { selected := by rw [hselect, hshape]
      nonempty := hsound.nonempty
      supported := hsound.supported
      arch_ne_empty := fun entry hentry => (hentries entry hentry).1
      compiler_ne_empty := fun entry hentry hempty =>
        (compiler_of_resolveLists h hentry hempty).1 rfl
      one_of_single := fun hsingle => by
        rw [hshape] at hsingle
        cases hsingle
      length_of_matrix := fun _ => length_entries_of_resolveLists h
      arch_of_matrix := fun _ _ _ hentry => notMem_arch_or_standing h hentry
      compiler_of_matrix := fun _ _ hentry _ hname => (compiler_of_resolveLists h hentry hname).2 }

/-- A single target without an architecture could only be that of a platform without one. -/
theorem wellFormed_of_resolveSingle
    (harch : platform.arch ≠ "") (hselect : Shape.select env = .ok .single)
    (h : resolveSingle env platform = .ok matrix) :
    WellFormed env platform matrix := by
  have hsound := sound_of_resolveSingle h
  obtain ⟨system, -, rfl⟩ := resolveSingle_eq_ok_iff.mp h
  have hname : env.firstValueD archChain platform.arch ≠ "" :=
    Environment.firstValueD_ne_empty harch archChain
  exact
    { selected := hselect
      nonempty := hsound.nonempty
      supported := hsound.supported
      arch_ne_empty := fun entry hentry => by
        rw [List.mem_singleton.mp hentry]
        exact hname
      compiler_ne_empty := fun entry hentry hempty => by
        rw [List.mem_singleton.mp hentry] at hempty
        exact (Environment.value?_eq_some_iff.mp hempty).2 rfl
      one_of_single := fun _ => ⟨_, rfl⟩
      length_of_matrix := nofun
      arch_of_matrix := nofun
      compiler_of_matrix := nofun }

/-- Every matrix that is resolved is well-formed.  Its shape is the one that the environment selects,
and supports all of its targets.  It has entries, in the single shape just one and in the other one more
than there are separators in the list of targets.  All architectures and compilers have a name, and in
the lists no name holds the separator, unless it is the architecture of the platform. -/
theorem resolved_matrix_is_wellFormed
    {env : Environment} {platform : Platform} {matrix : Matrix}
    (harch : platform.arch ≠ "") (h : resolve env platform = .ok matrix) :
    WellFormed env platform matrix := by
  cases hselect : Shape.select env with
  | error e =>
      rw [resolve, hselect] at h
      cases h
  | ok shape =>
      cases shape with
      | matrix =>
          rw [resolve_of_matrix hselect] at h
          exact wellFormed_of_resolveLists hselect h
      | single =>
          rw [resolve_of_single hselect] at h
          exact wellFormed_of_resolveSingle harch hselect h

/-- A platform whose architecture holds the separator stands in front of a target with a name of
several parts, and only the second of the two has a compiler. -/
theorem separator_comes_with_platform_only :
    (⟨"linux", "mips;le"⟩ : Platform).arch ≠ "" ∧
      ∃ matrix,
        resolve (.ofPairs [(targetsVariable, ";darwin_arm64_v8"), (compilersVariable, ";clang")])
          ⟨"linux", "mips;le"⟩ = .ok matrix ∧
        matrix.entries =
          [⟨⟨.linux, "mips;le"⟩, none⟩, ⟨⟨.darwin, "arm64_v8"⟩, some "clang"⟩] ∧
        WellFormed
          (.ofPairs [(targetsVariable, ";darwin_arm64_v8"), (compilersVariable, ";clang")])
          ⟨"linux", "mips;le"⟩ matrix := by
  have harch : (⟨"linux", "mips;le"⟩ : Platform).arch ≠ "" := by decide
  have hresolve :
      resolve (.ofPairs [(targetsVariable, ";darwin_arm64_v8"), (compilersVariable, ";clang")])
        ⟨"linux", "mips;le"⟩ =
      .ok ⟨.matrix, [⟨⟨.linux, "mips;le"⟩, none⟩, ⟨⟨.darwin, "arm64_v8"⟩, some "clang"⟩]⟩ := by
    decide +kernel
  exact ⟨harch, _, hresolve, rfl, resolved_matrix_is_wellFormed harch hresolve⟩

end CrossGen.Matrix
