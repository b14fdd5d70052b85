import CrossGen.Environment

/-!
# Assignments and values

Of all pairs that are set for one name, the last one counts, and a name that none of them sets keeps
its value.  In particular an environment that is laid over another one hides of it exactly the names
that it sets itself.

The empty text is no value.  Two environments have the same values if they differ at most in that a
name is not set in one of them and empty in the other.
-/

namespace CrossGen.Environment

theorem lookup?_empty (name : String) : empty.lookup? name = none :=
  rfl

/-- The last pair that sets a name counts, and otherwise the value from before. -/
theorem lookup?_setAll (env : Environment) (pairs : List (String × String)) (name : String) :
    (env.setAll pairs).lookup? name =
      ((pairs.reverse.find? fun pair => pair.1 == name).map Prod.snd).or (env.lookup? name) := by
  induction pairs generalizing env with
  | nil => rfl
  | cons pair rest ih =>
      obtain ⟨first, value⟩ := pair
      have hstep : (env.setAll ((first, value) :: rest)).lookup? name =
          ((env.set first value).setAll rest).lookup? name := rfl
      rw [hstep, ih, List.reverse_cons, List.find?_append]
      cases hrest : rest.reverse.find? fun pair => pair.1 == name with
      | some found => simp
      | none =>
          by_cases hname : name = first
          · subst hname
            simp
          · have hother : (first == name) = false := beq_false_of_ne (Ne.symm hname)
            simp [lookup?_set_of_ne env value hname, hother]

theorem lookup?_ofPairs (pairs : List (String × String)) (name : String) :
    (ofPairs pairs).lookup? name =
      (pairs.reverse.find? fun pair => pair.1 == name).map Prod.snd := by
  rw [ofPairs, lookup?_setAll, lookup?_empty, Option.or_none]

/-- No name has two entries, so that it does not matter from which end a name is looked for. -/
theorem find?_reverse_entries (env : Environment) (name : String) :
    (env.entries.reverse.find? fun pair => pair.1 == name) =
      env.entries.find? fun pair => pair.1 == name := by
  obtain ⟨entries, hsorted⟩ := env
  dsimp only
  induction entries with
  | nil => rfl
  | cons pair rest ih =>
      obtain ⟨hfirst, hrest⟩ := List.pairwise_cons.mp hsorted
      rw [List.reverse_cons, List.find?_append, ih hrest]
      by_cases hname : pair.1 = name
      · have hnone : (rest.find? fun other => other.1 == name) = none := by
          apply List.find?_eq_none.mpr
          intro other hother
          have hne : other.1 ≠ name := by
            rw [← hname]
            exact (String.ne_of_lt (hfirst other hother)).symm
          simpa using hne
        simp [hnone, hname]
      · simp [hname]

theorem lookup?_setAll_entries (env above : Environment) (name : String) :
    (env.setAll above.entries).lookup? name = (above.lookup? name).or (env.lookup? name) := by
  rw [lookup?_setAll, find?_reverse_entries]
  rfl

/-! ## Values -/

/-- A name is not set, or is set to the empty text. -/
def Unset (env : Environment) (name : String) : Prop :=
  env.lookup? name = none ∨ env.lookup? name = some ""

/-- A name is set to the same nonempty text in both environments, or has a value in neither. -/
def SameValue (env other : Environment) (name : String) : Prop :=
  (∃ value, value ≠ "" ∧ env.lookup? name = some value ∧ other.lookup? name = some value) ∨
    env.Unset name ∧ other.Unset name

variable {env other : Environment} {name : String}

theorem value?_eq_some_iff {value : String} :
    env.value? name = some value ↔ env.lookup? name = some value ∧ value ≠ "" := by
  unfold value?
  rw [Option.filter_eq_some_iff]
  simp

theorem value?_eq_none_iff : env.value? name = none ↔ env.Unset name := by
  unfold value? Unset
  cases env.lookup? name <;> simp

theorem sameValue_iff : SameValue env other name ↔ env.value? name = other.value? name := by
  unfold SameValue
  rw [← value?_eq_none_iff, ← value?_eq_none_iff]
  constructor
  · rintro (⟨value, hne, henv, hother⟩ | ⟨henv, hother⟩)
    · rw [value?_eq_some_iff.mpr ⟨henv, hne⟩, value?_eq_some_iff.mpr ⟨hother, hne⟩]
    · rw [henv, hother]
  · intro h
    cases hvalue : env.value? name with
    | none => exact .inr ⟨rfl, by rw [← h, hvalue]⟩
    | some value =>
        obtain ⟨henv, hne⟩ := value?_eq_some_iff.mp hvalue
        obtain ⟨hother, -⟩ := value?_eq_some_iff.mp (h.symm.trans hvalue)
        exact .inl ⟨value, hne, henv, hother⟩

theorem getD_lookup? (env : Environment) (name : String) :
    (env.lookup? name).getD "" = (env.value? name).getD "" := by
  unfold value?
  cases env.lookup? name with
  | none => rfl
  | some value =>
      by_cases hempty : value = ""
      · rw [hempty]
        rfl
      · simp [Option.filter, hempty]

theorem firstValue?_congr {names chain : List String}
    (h : ∀ name ∈ names, env.value? name = other.value? name) (hchain : chain ⊆ names) :
    env.firstValue? chain = other.firstValue? chain := by
  unfold firstValue?
  induction chain with
  | nil => rfl
  | cons name rest ih =>
      obtain ⟨hname, hrest⟩ := List.cons_subset.mp hchain
      rw [List.findSome?_cons, List.findSome?_cons, h name hname, ih hrest]

theorem firstValue?_eq_some_iff {chain : List String} {value : String} :
    env.firstValue? chain = some value ↔
      ∃ before name after, chain = before ++ name :: after ∧
        env.lookup? name = some value ∧ value ≠ "" ∧ ∀ earlier ∈ before, env.Unset earlier := by
  unfold firstValue?
  rw [List.findSome?_eq_some_iff]
  simp only [value?_eq_some_iff, value?_eq_none_iff, and_assoc]

theorem firstValue?_eq_none_iff {chain : List String} :
    env.firstValue? chain = none ↔ ∀ name ∈ chain, env.Unset name := by
  unfold firstValue?
  rw [List.findSome?_eq_none_iff]
  simp only [value?_eq_none_iff]

/-- What a chain of names gives: the nonempty text of a name before which no name has one, or nothing
if there is no such name. -/
inductive FirstText (env : Environment) : (chain : List String) → Option String → Prop
  | found {before after : List String} {name value : String}
      (hset : env.lookup? name = some value) (hne : value ≠ "")
      (hbefore : ∀ earlier ∈ before, env.Unset earlier) :
      FirstText env (before ++ name :: after) (some value)
  | missing {chain : List String} (hchain : ∀ name ∈ chain, env.Unset name) :
      FirstText env chain none

theorem firstValue?_eq_iff {chain : List String} {text : Option String} :
    env.firstValue? chain = text ↔ env.FirstText chain text := by
  constructor
  · rintro rfl
    cases hfirst : env.firstValue? chain with
    | none => exact .missing (firstValue?_eq_none_iff.mp hfirst)
    | some value =>
        obtain ⟨before, name, after, rfl, hset, hne, hbefore⟩ := firstValue?_eq_some_iff.mp hfirst
        exact .found hset hne hbefore
  · intro h
    cases h with
    | found hset hne hbefore =>
        exact firstValue?_eq_some_iff.mpr ⟨_, _, _, rfl, hset, hne, hbefore⟩
    | missing hchain => exact firstValue?_eq_none_iff.mpr hchain

theorem firstValueD_pair (env : Environment) (first second fallback : String) :
    env.firstValueD [first, second] fallback =
      (env.value? first).getD ((env.value? second).getD fallback) := by
  unfold firstValueD firstValue?
  cases hfirst : env.value? first with
  | some value => simp [hfirst]
  | none =>
      cases hsecond : env.value? second with
      | some value => simp [hfirst, hsecond]
      | none => simp [hfirst, hsecond]

theorem firstValueD_ne_empty {fallback : String} (h : fallback ≠ "") (chain : List String) :
    env.firstValueD chain fallback ≠ "" := by
  unfold firstValueD firstValue?
  cases hfirst : chain.findSome? env.value? with
  | none => exact h
  | some value =>
      obtain ⟨name, -, hvalue⟩ := List.exists_of_findSome?_eq_some hfirst
      exact (value?_eq_some_iff.mp hvalue).2

end CrossGen.Environment
