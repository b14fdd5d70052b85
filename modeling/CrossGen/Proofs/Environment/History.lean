import CrossGen.Proofs.Environment
import Mathlib.Data.List.Sort

/-!
# Histories of assignments

An environment that is made from pairs and then changed name by name has a history: the pairs, and
behind them the changes in their order.  All that can be seen of it is decided by the last assignment
to each name.  A chain of names gives the text of its first name that was last assigned one, and two
environments are equal exactly if the last assignments of all names are the same, whatever the order
in which they were made.
-/

namespace CrossGen.Environment

/-! ## Last assignments -/

/-- Of all assignments to `name` in a history, the last one assigns `value`. -/
def LastAssigned (history : List (String × String)) (name value : String) : Prop :=
  ∃ before after, history = before ++ (name, value) :: after ∧ ∀ pair ∈ after, pair.1 ≠ name

/-- No assignment of a history is one to `name`. -/
def NeverAssigned (history : List (String × String)) (name : String) : Prop :=
  ∀ pair ∈ history, pair.1 ≠ name

variable {history : List (String × String)} {name value : String}

theorem find?_reverse_eq_some_iff :
    (history.reverse.find? fun pair => pair.1 == name) = some (name, value) ↔
      LastAssigned history name value := by
  rw [List.find?_eq_some_iff_append]
  constructor
  · rintro ⟨-, after, before, hreverse, hafter⟩
    have hhistory : history = before.reverse ++ (name, value) :: after.reverse := by
      rw [← List.reverse_reverse history, hreverse]
      simp
    refine ⟨before.reverse, after.reverse, hhistory, ?_⟩
    intro pair hpair
    simpa using hafter pair (List.mem_reverse.mp hpair)
  · rintro ⟨before, after, rfl, hafter⟩
    refine ⟨by simp, after.reverse, before.reverse, by simp, ?_⟩
    intro pair hpair
    simpa using hafter pair (List.mem_reverse.mp hpair)

/-! ## What an environment holds -/

theorem setAll_ofPairs (pairs changes : List (String × String)) :
    (ofPairs pairs).setAll changes = ofPairs (pairs ++ changes) := by
  unfold ofPairs setAll
  rw [List.foldl_append]

theorem lookup?_ofPairs_eq_some_iff :
    (ofPairs history).lookup? name = some value ↔ LastAssigned history name value := by
  rw [lookup?_ofPairs, Option.map_eq_some_iff, ← find?_reverse_eq_some_iff]
  constructor
  · rintro ⟨pair, hfind, rfl⟩
    have hname : pair.1 = name := by simpa using List.find?_some hfind
    rw [hfind, ← hname]
  · intro hfind
    exact ⟨(name, value), hfind, rfl⟩

theorem lookup?_ofPairs_eq_none_iff :
    (ofPairs history).lookup? name = none ↔ NeverAssigned history name := by
  rw [lookup?_ofPairs, Option.map_eq_none_iff, List.find?_eq_none]
  simp [NeverAssigned]

theorem unset_ofPairs_iff :
    (ofPairs history).Unset name ↔ NeverAssigned history name ∨ LastAssigned history name "" := by
  unfold Unset
  rw [lookup?_ofPairs_eq_none_iff, lookup?_ofPairs_eq_some_iff]

/-! ## Equality -/

theorem mem_entries_iff {env : Environment} :
    (name, value) ∈ env.entries ↔ env.lookup? name = some value := by
  unfold lookup?
  constructor
  · intro hmem
    obtain ⟨before, after, hentries⟩ := List.append_of_mem hmem
    have hsorted := env.sorted
    rw [hentries] at hsorted
    have hbefore : ∀ pair ∈ before, pair.1 < name := by
      intro pair hpair
      exact (List.pairwise_append.mp hsorted).2.2 pair hpair (name, value) List.mem_cons_self
    have hfind : env.entries.find? (fun pair => pair.1 == name) = some (name, value) := by
      rw [List.find?_eq_some_iff_append]
      refine ⟨by simp, before, after, hentries, ?_⟩
      intro pair hpair
      simpa using String.ne_of_lt (hbefore pair hpair)
    rw [hfind]
    rfl
  · intro h
    obtain ⟨pair, hfind, rfl⟩ := Option.map_eq_some_iff.mp h
    have hname : pair.1 = name := by simpa using List.find?_some hfind
    rw [← hname]
    exact List.mem_of_find?_eq_some hfind

/-- Two environments are equal if the same names are set to the same texts in both. -/
theorem eq_iff_lookup? {env other : Environment} :
    env = other ↔
      ∀ name value, env.lookup? name = some value ↔ other.lookup? name = some value := by
  constructor
  · rintro rfl name value
    rfl
  · intro h
    have hmem : ∀ pair, pair ∈ env.entries ↔ pair ∈ other.entries := by
      rintro ⟨name, value⟩
      rw [mem_entries_iff, mem_entries_iff]
      exact h name value
    have : Std.Irrefl fun a b : String × String => a.1 < b.1 :=
      ⟨fun pair => String.lt_irrefl pair.1⟩
    have : Std.Antisymm fun a b : String × String => a.1 < b.1 :=
      ⟨fun _ _ hlt hgt => absurd hgt (String.lt_asymm hlt)⟩
    have hentries : env.entries = other.entries := env.sorted.eq_of_mem_iff other.sorted hmem
    cases env
    cases other
    cases hentries
    rfl

/-! ## Environments with a history -/

/-- Whatever pairs an environment is made from and however it is changed then, the last assignments
decide.  A chain gives the text that one of its names was last assigned, if every earlier name of the
chain was never assigned or last assigned the empty text.  It gives none if no name was last assigned
a text that is not empty.  Two such environments are equal exactly if every name was last assigned the
same in both histories, or never in both. -/
theorem last_assignments_decide :
    (∀ (pairs changes : List (String × String)) (chain : List String) (value : String),
      ((ofPairs pairs).setAll changes).firstValue? chain = some value ↔
        ∃ before name after, chain = before ++ name :: after ∧
          LastAssigned (pairs ++ changes) name value ∧ value ≠ "" ∧
          ∀ earlier ∈ before, NeverAssigned (pairs ++ changes) earlier ∨
            LastAssigned (pairs ++ changes) earlier "") ∧
    (∀ (pairs changes : List (String × String)) (chain : List String),
      ((ofPairs pairs).setAll changes).firstValue? chain = none ↔
        ¬∃ name ∈ chain, ∃ value ≠ "", LastAssigned (pairs ++ changes) name value) ∧
    ∀ pairs changes pairs' changes' : List (String × String),
      (ofPairs pairs).setAll changes = (ofPairs pairs').setAll changes' ↔
        ∀ name value, LastAssigned (pairs ++ changes) name value ↔
          LastAssigned (pairs' ++ changes') name value := by
  refine ⟨?_, ?_, ?_⟩
  · intro pairs changes chain value
    rw [setAll_ofPairs, firstValue?_eq_some_iff]
    simp only [lookup?_ofPairs_eq_some_iff, unset_ofPairs_iff]
  · intro pairs changes chain
    have hvalue (name : String) : (ofPairs (pairs ++ changes)).Unset name ↔
        ¬∃ value ≠ "", LastAssigned (pairs ++ changes) name value := by
      rw [← value?_eq_none_iff, Option.eq_none_iff_forall_ne_some]
      simp only [ne_eq, value?_eq_some_iff, lookup?_ofPairs_eq_some_iff, not_exists, not_and]
      exact forall_congr' fun value => imp_not_comm
    rw [setAll_ofPairs, firstValue?_eq_none_iff]
    simp only [hvalue, not_exists, not_and]
  · intro pairs changes pairs' changes'
    rw [setAll_ofPairs, setAll_ofPairs, eq_iff_lookup?]
    simp only [lookup?_ofPairs_eq_some_iff]

/-- A name that was emptied last is passed over, and what was assigned before does not show. -/
theorem emptied_name_is_passed_over :
    ((ofPairs [("CC", "gcc"), ("A", "x")]).setAll [("A", ""), ("CC", "clang")]).firstValue?
        ["B", "A", "CC"] = some "clang" ∧
      ((ofPairs [("CC", "gcc"), ("A", "x")]).setAll [("A", ""), ("CC", "clang")]).firstValue?
        ["A", "B"] = none ∧
      ∀ name value,
        LastAssigned ([("CC", "gcc"), ("A", "x")] ++ [("A", ""), ("CC", "clang")]) name value ↔
          LastAssigned ([] ++ [("CC", "clang"), ("A", "x"), ("A", "")]) name value := by
  obtain ⟨hsome, hnone, hequal⟩ := last_assignments_decide
  refine ⟨(hsome _ _ _ _).mpr ⟨["B", "A"], "CC", [], rfl, ?_, by decide, ?_⟩, ?_, ?_⟩
  · exact ⟨[("CC", "gcc"), ("A", "x"), ("A", "")], [], rfl, by decide⟩
  · intro earlier hearlier
    simp only [List.mem_cons, List.not_mem_nil, or_false] at hearlier
    rcases hearlier with rfl | rfl
    · exact Or.inl (by simp [NeverAssigned])
    · exact Or.inr ⟨[("CC", "gcc"), ("A", "x")], [("CC", "clang")], rfl, by decide⟩
  · apply (hnone _ _ _).mpr
    rintro ⟨name, hname, value, hvalue, hassigned⟩
    have hunset : ∀ name ∈ ["A", "B"],
        (ofPairs ([("CC", "gcc"), ("A", "x")] ++ [("A", ""), ("CC", "clang")])).value? name = none := by
      decide
    have h := value?_eq_some_iff.mpr ⟨lookup?_ofPairs_eq_some_iff.mpr hassigned, hvalue⟩
    rw [hunset name hname] at h
    cases h
  · exact (hequal _ _ [] [("CC", "clang"), ("A", "x"), ("A", "")]).mp (by decide)

end CrossGen.Environment
