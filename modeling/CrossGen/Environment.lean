/-!
# Environments

An environment gives values to names. It is kept as the list of its entries in the order of the
names, so that two environments are equal exactly if they give the same values to the same names.
Setting a name replaces the value that it had. A name that is set to the empty text counts as unset
wherever a value is asked for.
-/

namespace CrossGen

/-- The entries after `name` is set to `value`, in the order of the names. -/
def setEntry (name value : String) : List (String × String) → List (String × String)
  | [] => [(name, value)]
  | (n, v) :: rest =>
    if name < n then (name, value) :: (n, v) :: rest
    else if n < name then (n, v) :: setEntry name value rest
    else (name, value) :: rest

theorem mem_setEntry
    {name value : String} {entries : List (String × String)} {e : String × String}
    (h : e ∈ setEntry name value entries) : e = (name, value) ∨ e ∈ entries := by
  induction entries with
  | nil => exact Or.inl (by simpa [setEntry] using h)
  | cons first rest ih =>
    obtain ⟨n, v⟩ := first
    unfold setEntry at h
    split at h
    · simpa using h
    · split at h
      · rcases List.mem_cons.mp h with rfl | h
        · exact Or.inr (by simp)
        · exact (ih h).imp_right (List.mem_cons_of_mem _)
      · rcases List.mem_cons.mp h with rfl | h
        · exact Or.inl rfl
        · exact Or.inr (List.mem_cons_of_mem _ h)

theorem pairwise_setEntry
    {name value : String} {entries : List (String × String)}
    (h : entries.Pairwise fun a b => a.1 < b.1) :
    (setEntry name value entries).Pairwise fun a b => a.1 < b.1 := by
  induction entries with
  | nil => simp [setEntry]
  | cons first rest ih =>
    obtain ⟨n, v⟩ := first
    obtain ⟨hfirst, hrest⟩ := List.pairwise_cons.mp h
    unfold setEntry
    split
    · next hlt =>
      refine List.pairwise_cons.mpr ⟨fun e he => ?_, h⟩
      rcases List.mem_cons.mp he with rfl | he
      · exact hlt
      · exact String.lt_trans hlt (hfirst e he)
    · next hnlt =>
      split
      · next hlt =>
        refine List.pairwise_cons.mpr ⟨fun e he => ?_, ih hrest⟩
        rcases mem_setEntry he with rfl | he
        · exact hlt
        · exact hfirst e he
      · next hngt =>
        have heq : name = n :=
          String.le_antisymm (String.not_lt.mp hngt) (String.not_lt.mp hnlt)
        subst heq
        exact List.pairwise_cons.mpr ⟨hfirst, hrest⟩

theorem find?_setEntry_self (name value : String) (entries : List (String × String)) :
    (setEntry name value entries).find? (fun e => e.1 == name) = some (name, value) := by
  induction entries with
  | nil => simp [setEntry]
  | cons first rest ih =>
    obtain ⟨n, v⟩ := first
    unfold setEntry
    split
    · simp
    · split
      · next hlt =>
        have hne : n ≠ name := String.ne_of_lt hlt
        rw [List.find?_cons_of_neg (by simpa using hne), ih]
      · simp

theorem find?_setEntry_of_ne
    {name other : String} (value : String) (entries : List (String × String))
    (h : other ≠ name) :
    (setEntry name value entries).find? (fun e => e.1 == other) =
      entries.find? fun e => e.1 == other := by
  have hskip (value : String) (rest : List (String × String)) :
      ((name, value) :: rest).find? (fun e => e.1 == other) =
        rest.find? fun e => e.1 == other :=
    List.find?_cons_of_neg (by simpa using h.symm)
  induction entries with
  | nil => simp [setEntry, h.symm]
  | cons first rest ih =>
    obtain ⟨n, v⟩ := first
    unfold setEntry
    split
    · exact hskip value _
    · next hnlt =>
      split
      · rw [List.find?_cons, List.find?_cons, ih]
      · next hngt =>
        have heq : name = n :=
          String.le_antisymm (String.not_lt.mp hngt) (String.not_lt.mp hnlt)
        subst heq
        rw [hskip, hskip]

/-- A finite assignment of values to names. -/
structure Environment where
  entries : List (String × String)
  sorted : entries.Pairwise fun a b => a.1 < b.1

namespace Environment

instance : DecidableEq Environment := fun a b =>
  if h : a.entries = b.entries then
    isTrue (by cases a; cases b; cases h; rfl)
  else
    isFalse (fun hab => h (congrArg entries hab))

/-- The environment in which no name is set. -/
def empty : Environment :=
  ⟨[], List.Pairwise.nil⟩

instance : Inhabited Environment := ⟨empty⟩

/-- The environment in which `name` has the given value and all other names are as before. -/
def set (env : Environment) (name value : String) : Environment :=
  ⟨setEntry name value env.entries, pairwise_setEntry env.sorted⟩

/-- The environment after each pair has been set, one after the other. -/
def setAll (env : Environment) (pairs : List (String × String)) : Environment :=
  pairs.foldl (fun e (name, value) => e.set name value) env

/-- The environment of the given pairs, the last of which counts where a name is repeated. -/
def ofPairs (pairs : List (String × String)) : Environment :=
  empty.setAll pairs

/-- The value that `name` is set to, which may be empty. -/
def lookup? (env : Environment) (name : String) : Option String :=
  (env.entries.find? fun e => e.1 == name).map Prod.snd

@[simp]
theorem lookup?_set_self (env : Environment) (name value : String) :
    (env.set name value).lookup? name = some value := by
  simp [lookup?, set, find?_setEntry_self]

theorem lookup?_set_of_ne (env : Environment) {name other : String} (value : String)
    (h : other ≠ name) : (env.set name value).lookup? other = env.lookup? other := by
  rw [lookup?, set, find?_setEntry_of_ne value env.entries h, lookup?]

/-- The value of `name` if it is set to a nonempty text. -/
def value? (env : Environment) (name : String) : Option String :=
  (env.lookup? name).filter (!·.isEmpty)

/-- The value of the first name of `chain` that has one. -/
def firstValue? (env : Environment) (chain : List String) : Option String :=
  chain.findSome? env.value?

/-- The value of the first name of `chain` that has one, or `fallback` if none has. -/
def firstValueD (env : Environment) (chain : List String) (fallback : String) : String :=
  (env.firstValue? chain).getD fallback

end Environment

end CrossGen
