import CrossGen.Proofs.Environment
import CrossGen.Proofs.Target.Resolution

/-!
# Why the two lists are refused

The lists are refused in a fixed order.  First their lengths are compared, whatever their tokens
are.  Then every token has to be the key of a target for linux or for darwin, and the first one from
the left that is not decides about the error.
-/

namespace CrossGen.Matrix

/-! ## One token -/

/-- A token that the lists admit: it is read as a target, for linux or for darwin. -/
def Admitted (token : String) : Prop :=
  ∃ target, Target.parse token = .ok target ∧
    (target.system = .linux ∨ target.system = .darwin)

/-- Why a token is not admitted: it is not read as a target, or as one for windows. -/
inductive Refused : String → TargetError → Prop
  | misread {token : String} {e : TargetError} (h : Target.Misread token e) : Refused token e
  | unsupported {token : String} {target : Target} (hread : Target.parse token = .ok target)
      (hsystem : target.system = .windows) : Refused token (.unsupported token "matrix")

theorem supports_matrix_iff {system : OperatingSystem} :
    Shape.matrix.supports system = true ↔ system = .linux ∨ system = .darwin := by
  cases system <;> simp [Shape.supports]

theorem check_matrix_of_windows {target : Target} (h : target.system = .windows) :
    Shape.matrix.check target = .error (.unsupported target.key "matrix") := by
  rw [Shape.check, h]
  rfl

variable {token : String} {compiler : Option String} {e : TargetError}

variable (compiler) in
theorem exists_listEntry_iff :
    (∃ entry, listEntry (token, compiler) = .ok entry) ↔ Admitted token := by
  constructor
  · rintro ⟨entry, h⟩
    obtain ⟨hpair, harch, hsupported⟩ := listEntry_eq_ok_iff.mp h
    have htoken : token = entry.target.key := congrArg Prod.fst hpair
    have hread := Target.parse_eq_ok_iff.mpr ⟨htoken, harch⟩
    exact ⟨entry.target, hread, supports_matrix_iff.mp hsupported⟩
  · rintro ⟨target, hread, hsystem⟩
    obtain ⟨rfl, harch⟩ := Target.parse_eq_ok_iff.mp hread
    have hsupported := supports_matrix_iff.mpr hsystem
    exact ⟨⟨target, compiler⟩, listEntry_eq_ok_iff.mpr ⟨rfl, harch, hsupported⟩⟩

theorem listEntry_eq_error_iff : listEntry (token, compiler) = .error e ↔ Refused token e := by
  unfold listEntry
  dsimp only
  constructor
  · intro h
    cases hread : Target.parse token with
    | error other =>
        rw [hread] at h
        cases h
        exact .misread (Target.parse_eq_error_iff.mp hread)
    | ok target =>
        rw [hread] at h
        dsimp only at h
        by_cases hsystem : target.system = .windows
        · rw [check_matrix_of_windows hsystem] at h
          cases h
          rw [← (Target.parse_eq_ok_iff.mp hread).1]
          exact .unsupported hread hsystem
        · have hsupported : Shape.matrix.supports target.system = true := by
            cases hname : target.system <;> simp_all [Shape.supports]
          rw [Shape.check, if_pos hsupported] at h
          cases h
  · intro h
    cases h with
    | misread h => rw [Target.parse_eq_error_iff.mpr h]
    | unsupported hread hsystem =>
        rw [hread]
        dsimp only
        rw [check_matrix_of_windows hsystem, (Target.parse_eq_ok_iff.mp hread).1]

theorem Refused.not_admitted (h : Refused token e) : ¬Admitted token := by
  intro hadmitted
  obtain ⟨entry, hentry⟩ := (exists_listEntry_iff none).mpr hadmitted
  rw [listEntry_eq_error_iff.mpr h] at hentry
  cases hentry

/-! ## The tokens from the left -/

/-- The first token that is not admitted is refused with the given error. -/
inductive FirstRefused : List String → TargetError → Prop
  | here {token : String} {rest : List String} {e : TargetError}
      (h : Refused token e) : FirstRefused (token :: rest) e
  | later {token : String} {rest : List String} {e : TargetError}
      (hadmitted : Admitted token) (hrest : FirstRefused rest e) : FirstRefused (token :: rest) e

theorem mapM_zip_eq_error_iff
    {tokens : List String} {compilers : List (Option String)}
    (hlength : compilers.length = tokens.length) :
    (tokens.zip compilers).mapM listEntry = .error e ↔ FirstRefused tokens e := by
  induction tokens generalizing compilers with
  | nil =>
      constructor
      · intro h
        cases h
      · intro h
        cases h
  | cons token rest ih =>
      obtain ⟨compiler, others, rfl⟩ := List.exists_cons_of_length_eq_add_one hlength
      have hrest := ih (Nat.succ.inj hlength)
      rw [List.zip_cons_cons, List.mapM_cons]
      constructor
      · intro h
        cases hentry : listEntry (token, compiler) with
        | error other =>
            rw [hentry] at h
            cases h
            exact .here (listEntry_eq_error_iff.mp hentry)
        | ok entry =>
            rw [hentry] at h
            apply FirstRefused.later ((exists_listEntry_iff _).mp ⟨entry, hentry⟩)
            apply hrest.mp
            cases hothers : (rest.zip others).mapM listEntry with
            | error other =>
                rw [hothers] at h
                cases h
                rfl
            | ok entries =>
                rw [hothers] at h
                cases h
      · intro h
        cases h with
        | here hrefused =>
            rw [listEntry_eq_error_iff.mpr hrefused]
            rfl
        | later hadmitted hlater =>
            obtain ⟨entry, hentry⟩ := (exists_listEntry_iff _).mpr hadmitted
            rw [hentry, hrest.mpr hlater]
            rfl

theorem FirstRefused.not_forall_admitted {tokens : List String} (h : FirstRefused tokens e) :
    ¬∀ token ∈ tokens, Admitted token := by
  intro hall
  induction h with
  | here hrefused => exact hrefused.not_admitted (hall _ List.mem_cons_self)
  | later hadmitted hrest ih =>
      exact ih fun token htoken => hall token (List.mem_cons_of_mem _ htoken)

theorem admitted_or_firstRefused (tokens : List String) :
    (∀ token ∈ tokens, Admitted token) ∨ ∃ e, FirstRefused tokens e := by
  induction tokens with
  | nil => exact .inl nofun
  | cons token rest ih =>
      cases hentry : listEntry (token, none) with
      | error e => exact .inr ⟨e, .here (listEntry_eq_error_iff.mp hentry)⟩
      | ok entry =>
          have hadmitted := (exists_listEntry_iff _).mp ⟨entry, hentry⟩
          rcases ih with hrest | ⟨e, hrest⟩
          · exact .inl (List.forall_mem_cons.mpr ⟨hadmitted, hrest⟩)
          · exact .inr ⟨e, .later hadmitted hrest⟩

/-! ## The lengths of the lists -/

variable {env : Environment} {platform : Platform}

/-- The number of fields of a list, one more than it has separators. -/
def fieldCount (list : String) : Nat :=
  list.toList.count ';' + 1

/-- There is a list of compilers, and it does not have as many fields as the list of targets.  A
list of targets that is not set is as good as an empty one. -/
structure Mismatch (env : Environment) (targets compilers : Nat) : Prop where
  targets_eq : targets = fieldCount ((env.lookup? targetsVariable).getD "")
  compilers_eq : ∃ list, env.lookup? compilersVariable = some list ∧ list ≠ "" ∧
    compilers = fieldCount list
  ne : targets ≠ compilers

theorem length_tokens (env : Environment) (platform : Platform) :
    (tokens env platform).length = fieldCount ((env.lookup? targetsVariable).getD "") := by
  obtain ⟨first, rest, hfields⟩ := exists_fields_targets_eq env
  rw [fieldCount, ← Text.length_fields, hfields, tokens_of_fields hfields, List.length_cons,
    List.length_cons]

theorem length_compilers_of_value?
    {list : String} (h : env.value? compilersVariable = some list) (count : Nat) :
    (compilers env count).length = fieldCount list := by
  rw [compilers, h, List.length_map, Text.length_fields]
  rfl

variable (platform) in
theorem mismatch_iff {targets count : Nat} :
    Mismatch env targets count ↔
      (compilers env (tokens env platform).length).length ≠ (tokens env platform).length ∧
        targets = (tokens env platform).length ∧
        count = (compilers env (tokens env platform).length).length := by
  constructor
  · rintro ⟨rfl, ⟨list, hlookup, hlist, rfl⟩, hne⟩
    have hvalue := Environment.value?_eq_some_iff.mpr ⟨hlookup, hlist⟩
    rw [length_compilers_of_value? hvalue, length_tokens]
    exact ⟨hne.symm, rfl, rfl⟩
  · rintro ⟨hne, rfl, rfl⟩
    cases hvalue : env.value? compilersVariable with
    | none => simp [compilers, hvalue] at hne
    | some list =>
        obtain ⟨hlookup, hlist⟩ := Environment.value?_eq_some_iff.mp hvalue
        have hcount := length_compilers_of_value? hvalue (tokens env platform).length
        exact ⟨length_tokens env platform, ⟨list, hlookup, hlist, hcount⟩, hne.symm⟩

/-! ## Both lists -/

variable (platform) in
theorem resolveLists_of_mismatch {targets compilers : Nat} (h : Mismatch env targets compilers) :
    resolveLists env platform = .error (.listMismatch targets compilers) := by
  obtain ⟨hne, rfl, rfl⟩ := (mismatch_iff platform).mp h
  rw [resolveLists]
  exact if_pos hne

theorem resolveLists_eq_error_iff_of_match
    (h : ∀ targets compilers, ¬Mismatch env targets compilers) :
    resolveLists env platform = .error e ↔ FirstRefused (tokens env platform) e := by
  have hlength : (compilers env (tokens env platform).length).length =
      (tokens env platform).length := by
    by_contra hne
    exact h _ _ ((mismatch_iff platform).mpr ⟨hne, rfl, rfl⟩)
  rw [← mapM_zip_eq_error_iff hlength, resolveLists, if_neg (not_not.mpr hlength)]
  cases ((tokens env platform).zip (compilers env (tokens env platform).length)).mapM listEntry with
  | error other =>
      constructor
      · intro h
        cases h
        rfl
      · intro h
        cases h
        rfl
  | ok entries =>
      constructor
      · intro h
        cases h
      · intro h
        cases h

theorem FirstRefused.ne_listMismatch {tokens : List String} (h : FirstRefused tokens e)
    (targets compilers : Nat) : e ≠ .listMismatch targets compilers := by
  induction h with
  | here hrefused =>
      rintro rfl
      cases hrefused with
      | misread hmisread => cases hmisread
  | later hadmitted hrest ih => exact ih

theorem resolveLists_eq_error_iff :
    resolveLists env platform = .error e ↔
      (∃ targets compilers, Mismatch env targets compilers ∧
        e = .listMismatch targets compilers) ∨
      (∀ targets compilers, ¬Mismatch env targets compilers) ∧
        FirstRefused (tokens env platform) e := by
  by_cases hmatch : ∀ targets compilers, ¬Mismatch env targets compilers
  · rw [resolveLists_eq_error_iff_of_match hmatch]
    constructor
    · intro hfirst
      exact .inr ⟨hmatch, hfirst⟩
    · rintro (⟨targets, compilers, hmismatch, -⟩ | ⟨-, hfirst⟩)
      · exact absurd hmismatch (hmatch targets compilers)
      · exact hfirst
  · push Not at hmatch
    obtain ⟨targets, compilers, hmismatch⟩ := hmatch
    have hrefused := resolveLists_of_mismatch platform hmismatch
    constructor
    · intro h
      rw [hrefused] at h
      exact .inl ⟨targets, compilers, hmismatch, (Except.error.inj h).symm⟩
    · rintro (⟨targets, compilers, hother, rfl⟩ | ⟨hnone, -⟩)
      · exact resolveLists_of_mismatch platform hother
      · exact absurd hmismatch (hnone targets compilers)

theorem resolveLists_eq_listMismatch_iff {targets compilers : Nat} :
    resolveLists env platform = .error (.listMismatch targets compilers) ↔
      Mismatch env targets compilers := by
  constructor
  · intro h
    rcases resolveLists_eq_error_iff.mp h with ⟨n, m, hmismatch, heq⟩ | ⟨-, hfirst⟩
    · cases heq
      exact hmismatch
    · exact absurd rfl (hfirst.ne_listMismatch targets compilers)
  · exact resolveLists_of_mismatch platform

theorem exists_resolveLists_iff :
    (∃ matrix, resolveLists env platform = .ok matrix) ↔
      (∀ targets compilers, ¬Mismatch env targets compilers) ∧
        ∀ token ∈ tokens env platform, Admitted token := by
  constructor
  · rintro ⟨matrix, hmatrix⟩
    have hmatch : ∀ targets compilers, ¬Mismatch env targets compilers := by
      intro targets compilers hmismatch
      rw [resolveLists_of_mismatch platform hmismatch] at hmatrix
      cases hmatrix
    rcases admitted_or_firstRefused (tokens env platform) with hadmitted | ⟨e, hfirst⟩
    · exact ⟨hmatch, hadmitted⟩
    · rw [(resolveLists_eq_error_iff_of_match hmatch).mpr hfirst] at hmatrix
      cases hmatrix
  · rintro ⟨hmatch, hadmitted⟩
    cases hresolve : resolveLists env platform with
    | ok matrix => exact ⟨matrix, rfl⟩
    | error e =>
        have hfirst := (resolveLists_eq_error_iff_of_match hmatch).mp hresolve
        exact absurd hadmitted hfirst.not_forall_admitted

/-- The order in which the two lists are refused.  They are refused for their lengths exactly if
there is a list of compilers that does not have as many fields as the list of targets, whatever the
tokens are.  Otherwise they are resolved exactly if all tokens are admitted, and refused exactly
with the error of the first token from the left that is not.  The tokens are the fields of the list
of targets, with the key of the platform in place of an empty first one. -/
theorem lists_are_refused_in_order (env : Environment) (platform : Platform) :
    ∃ first rest tokens,
      Text.fields ';' ((env.lookup? targetsVariable).getD "") = first :: rest ∧
      tokens = (if first = "" then platform.key else first) :: rest ∧
      (∀ targets compilers,
        resolveLists env platform = .error (.listMismatch targets compilers) ↔
          Mismatch env targets compilers) ∧
      ((∃ matrix, resolveLists env platform = .ok matrix) ↔
        (∀ targets compilers, ¬Mismatch env targets compilers) ∧
          ∀ token ∈ tokens, Admitted token) ∧
      ∀ e, resolveLists env platform = .error e ↔
        (∃ targets compilers, Mismatch env targets compilers ∧
          e = .listMismatch targets compilers) ∨
        (∀ targets compilers, ¬Mismatch env targets compilers) ∧ FirstRefused tokens e := by
  obtain ⟨first, rest, hfields⟩ := exists_fields_targets_eq env
  refine ⟨first, rest, tokens env platform, hfields, tokens_of_fields hfields platform, ?_,
    exists_resolveLists_iff, ?_⟩
  · intro targets compilers
    exact resolveLists_eq_listMismatch_iff
  · intro e
    exact resolveLists_eq_error_iff

/-! ### The platform, a target for windows, and too many compilers -/

def mixedLists : Environment :=
  .ofPairs [(targetsVariable, ";linux_arm64;windows_386;plan9")]

/-- Four compilers for three targets, two of which are malformed. -/
def unevenLists : Environment :=
  .ofPairs [(targetsVariable, ";linux;plan9"), (compilersVariable, ";;;")]

/-- The third of four tokens is the first one that is refused, and none of them counts if there are
too many compilers. -/
theorem mixed_and_uneven_lists_are_refused :
    (FirstRefused ["linux_amd64", "linux_arm64", "windows_386", "plan9"]
        (.unsupported "windows_386" "matrix") ∧
      resolveLists mixedLists ⟨"linux", "amd64"⟩ =
        .error (.unsupported "windows_386" "matrix")) ∧
    Mismatch unevenLists 3 4 ∧
      resolveLists unevenLists ⟨"linux", "amd64"⟩ = .error (.listMismatch 3 4) := by
  constructor
  · obtain ⟨first, rest, tokens, hfields, htokens, -, -, hrefused⟩ :=
      lists_are_refused_in_order mixedLists ⟨"linux", "amd64"⟩
    have hlist : Text.fields ';' ((mixedLists.lookup? targetsVariable).getD "") =
        ["", "linux_arm64", "windows_386", "plan9"] := by decide
    obtain ⟨rfl, rfl⟩ := List.cons.inj (hfields.symm.trans hlist)
    have hfirst : FirstRefused ["linux_amd64", "linux_arm64", "windows_386", "plan9"]
        (.unsupported "windows_386" "matrix") :=
      .later ⟨⟨.linux, "amd64"⟩, by decide, .inl rfl⟩ <|
        .later ⟨⟨.linux, "arm64"⟩, by decide, .inl rfl⟩ <|
          .here (@Refused.unsupported "windows_386" ⟨.windows, "386"⟩ (by decide) rfl)
    refine ⟨hfirst, (hrefused _).mpr (.inr ⟨?_, ?_⟩)⟩
    · rintro targets compilers ⟨-, ⟨list, hlookup, -⟩, -⟩
      cases hlookup.symm.trans (by decide : mixedLists.lookup? compilersVariable = none)
    · rw [htokens]
      exact hfirst
  · obtain ⟨-, -, -, -, -, hmismatch, -, -⟩ :=
      lists_are_refused_in_order unevenLists ⟨"linux", "amd64"⟩
    have h : Mismatch unevenLists 3 4 :=
      ⟨by decide, ⟨";;;", by decide, by decide, by decide⟩, by decide⟩
    exact ⟨h, (hmismatch 3 4).mpr h⟩

end CrossGen.Matrix
