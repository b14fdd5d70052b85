import CrossGen.Proofs.Target.Key
import CrossGen.Target.Matrix

/-!
# How a matrix is resolved

Both ways to resolve a matrix are described here by what they accept.  The lists are read as the
entries whose keys and compilers they hold, and the variables of the single shape give one entry.
-/

namespace CrossGen.Matrix

/-! ## The two lists -/

theorem exists_fields_targets_eq (env : Environment) :
    ∃ first rest, Text.fields ';' ((env.lookup? targetsVariable).getD "") = first :: rest :=
  List.exists_cons_of_ne_nil (Text.fields_ne_nil ';' _)

/-- The tokens are the fields of the list, but for an empty first one. -/
theorem tokens_of_fields
    {env : Environment} {first : String} {rest : List String}
    (h : Text.fields ';' ((env.lookup? targetsVariable).getD "") = first :: rest)
    (platform : Platform) :
    tokens env platform = (if first = "" then platform.key else first) :: rest := by
  rw [tokens, h]
  simp only [String.isEmpty_iff]

theorem listEntry_eq_ok_iff {pair : String × Option String} {entry : Entry} :
    listEntry pair = .ok entry ↔
      pair = (entry.target.key, entry.compiler) ∧ entry.target.arch ≠ "" ∧
        Shape.matrix.supports entry.target.system = true := by
  obtain ⟨token, compiler⟩ := pair
  unfold listEntry Shape.check
  constructor
  · intro h
    cases htarget : Target.parse token with
    | error e =>
        rw [htarget] at h
        cases h
    | ok target =>
        rw [htarget] at h
        dsimp only at h
        by_cases hsupported : Shape.matrix.supports target.system = true
        · rw [if_pos hsupported] at h
          cases h
          obtain ⟨rfl, harch⟩ := Target.parse_eq_ok_iff.mp htarget
          exact ⟨rfl, harch, hsupported⟩
        · rw [if_neg hsupported] at h
          cases h
  · rintro ⟨hpair, harch, hsupported⟩
    cases hpair
    rw [Target.parse_eq_ok_iff.mpr ⟨rfl, harch⟩]
    dsimp only
    rw [if_pos hsupported]

theorem mapM_listEntry_eq_ok_iff
    {pairs : List (String × Option String)} {entries : List Entry} :
    pairs.mapM listEntry = .ok entries ↔
      pairs = entries.map (fun entry => (entry.target.key, entry.compiler)) ∧
        ∀ entry ∈ entries,
          entry.target.arch ≠ "" ∧ Shape.matrix.supports entry.target.system = true := by
  induction pairs generalizing entries with
  | nil => cases entries <;> simp [pure, Except.pure]
  | cons pair rest ih =>
      rw [List.mapM_cons]
      cases entries with
      | nil =>
          cases listEntry pair <;> cases rest.mapM listEntry <;>
            simp [bind, Except.bind, pure, Except.pure]
      | cons entry others =>
          rw [List.map_cons, List.cons.injEq, List.forall_mem_cons, and_and_and_comm,
            ← listEntry_eq_ok_iff, ← ih]
          cases listEntry pair <;> cases rest.mapM listEntry <;>
            simp [bind, Except.bind, pure, Except.pure]

/-- The lists are read as a matrix if its keys are the tokens, its compilers are the compilers, and
no target is refused. -/
theorem resolveLists_eq_ok_iff {env : Environment} {platform : Platform} {matrix : Matrix} :
    resolveLists env platform = .ok matrix ↔
      matrix.shape = .matrix ∧ tokens env platform = matrix.keys ∧
        compilers env matrix.entries.length = matrix.entries.map Entry.compiler ∧
        ∀ entry ∈ matrix.entries,
          entry.target.arch ≠ "" ∧ Shape.matrix.supports entry.target.system = true := by
  obtain ⟨shape, entries⟩ := matrix
  unfold resolveLists keys
  dsimp only
  constructor
  · intro h
    split at h
    · cases h
    · next hlength =>
      have hlength := not_not.mp hlength
      split at h
      · cases h
      · next hentries =>
        cases h
        obtain ⟨hzip, hadmitted⟩ := mapM_listEntry_eq_ok_iff.mp hentries
        have htokens := congrArg (List.map Prod.fst) hzip
        have hcompilers := congrArg (List.map Prod.snd) hzip
        rw [List.map_fst_zip hlength.ge, List.map_map] at htokens
        rw [List.map_snd_zip hlength.le, List.map_map, htokens, List.length_map] at hcompilers
        exact ⟨rfl, htokens, hcompilers, hadmitted⟩
  · rintro ⟨rfl, htokens, hcompilers, hadmitted⟩
    have hentries := mapM_listEntry_eq_ok_iff.mpr ⟨rfl, hadmitted⟩
    rw [htokens, List.length_map, hcompilers, List.length_map, if_neg (not_not.mpr rfl),
      List.zip_map', hentries]

/-! ## A single target -/

/-- The chains of variables, or else the platform, have to name an operating system.  The single
shape supports all of them. -/
theorem resolveSingle_eq_ok_iff {env : Environment} {platform : Platform} {matrix : Matrix} :
    resolveSingle env platform = .ok matrix ↔
      ∃ system : OperatingSystem,
        env.firstValueD systemChain platform.system = system.name ∧
        matrix = ⟨.single, [⟨⟨system, env.firstValueD archChain platform.arch⟩,
          env.value? compilerVariable⟩]⟩ := by
  simp only [← OperatingSystem.parse_eq_ok_iff]
  unfold resolveSingle
  cases OperatingSystem.parse (env.firstValueD systemChain platform.system) with
  | error e => simp
  | ok system =>
      have hcheck : Shape.single.check ⟨system, env.firstValueD archChain platform.arch⟩ =
          .ok () := by
        cases system <;> rfl
      simp [hcheck, eq_comm]

theorem exists_entry_of_single
    {env : Environment} {platform : Platform} {matrix : Matrix}
    (h : resolve env platform = .ok matrix) (hshape : matrix.shape = .single) :
    ∃ entry, matrix.entries = [entry] := by
  unfold resolve at h
  split at h
  · cases h
  · rw [(resolveLists_eq_ok_iff.mp h).1] at hshape
    cases hshape
  · obtain ⟨system, -, rfl⟩ := resolveSingle_eq_ok_iff.mp h
    exact ⟨_, rfl⟩

end CrossGen.Matrix
