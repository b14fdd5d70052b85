import CrossGen.Proofs.Combine.Directive

/-!
# Inlining file by file

`inline` works on one stack of tasks.  This module reads it as a recursion over files: the tasks of
a file are carried out before whatever is below them on the stack, so that an include amounts to the
lines of the included file, followed by the rest of the including one.  The equations and the
induction principle at the end replace the definition of `inline` in all later proofs.
-/

namespace CrossGen.Combine

/-! ## What a line includes -/

/-- The name that a line of a file in the directory `dir` includes, with the file that the name
leads to.  A line that includes nothing, or nothing that can be found, has none. -/
def Rules.target?
    (rules : Rules) (dir : Location) (line : String) : Option (String × Location) :=
  match includeName? line with
  | none => none
  | some name => (rules.resolve (some dir) ⟨name⟩).map fun loc => (name, loc)

theorem target?_eq_some_iff
    {rules : Rules} {dir : Location} {line name : String} {loc : Location} :
    rules.target? dir line = some (name, loc) ↔
      includeName? line = some name ∧ rules.resolve (some dir) ⟨name⟩ = some loc := by
  unfold Rules.target?
  cases hname : includeName? line with
  | none => simp
  | some found =>
      constructor
      · intro h
        obtain ⟨other, hother, hpair⟩ := Option.map_eq_some_iff.mp h
        cases hpair
        exact ⟨rfl, hother⟩
      · rintro ⟨hsame, hloc⟩
        cases hsame
        simp [hloc]

theorem target?_inj
    {rules : Rules} {dir : Location} {line name other : String} {loc loc' : Location}
    (h : rules.target? dir line = some (name, loc))
    (h' : rules.target? dir line = some (other, loc')) :
    name = other ∧ loc = loc' :=
  Prod.mk.inj (Option.some.inj (h.symm.trans h'))

theorem copySource_of_includeName?
    {line name : String} (h : includeName? line = some name) (progress : Progress) :
    progress.copySource line = progress.copy line := by
  simp [Progress.copySource, not_isPragmaOnce_of_includeName? h]

/-! ## Equations -/

@[simp]
theorem inline_nil (rules : Rules) (progress : Progress) :
    inline rules [] progress = .ok progress := by
  rw [inline]

@[simp]
theorem inline_finish
    (rules : Rules) (name : String) (rest : List Task) (progress : Progress) :
    inline rules (.finish name :: rest) progress =
      inline rules rest (progress.endLine.remark .finish name) := by
  rw [inline]

theorem inline_source
    {rules : Rules} {dir : Location} {line : String}
    (htarget : rules.target? dir line = none)
    (rest : List Task) (progress : Progress) :
    inline rules (.line dir line :: rest) progress =
      inline rules rest (progress.copySource line) := by
  rw [inline]
  unfold Rules.target? at htarget
  split
  · rfl
  · next name hname =>
    have hresolve : rules.resolve (some dir) ⟨name⟩ = none := by
      simpa [hname] using htarget
    rw [copySource_of_includeName? hname]
    split
    · rfl
    · next loc hloc => simp [hresolve] at hloc

theorem inline_pass
    {rules : Rules} {dir loc : Location} {line name : String} {progress : Progress}
    (htarget : rules.target? dir line = some (name, loc))
    (hpass : loc ∈ rules.excluded ∨ loc ∈ progress.opened) (rest : List Task) :
    inline rules (.line dir line :: rest) progress =
      inline rules rest (passOver rules progress line name loc) := by
  obtain ⟨hname, hloc⟩ := target?_eq_some_iff.mp htarget
  rw [inline]
  simp only [hname]
  split
  · next hnone => simp [hloc] at hnone
  · next found hfound =>
    obtain rfl : loc = found := by simpa [hloc] using hfound
    rw [dif_pos hpass]

theorem inline_open
    {rules : Rules} {dir loc : Location} {line name : String} {progress : Progress}
    (htarget : rules.target? dir line = some (name, loc))
    (hexcluded : loc ∉ rules.excluded) (hnew : loc ∉ progress.opened) (rest : List Task) :
    inline rules (.line dir line :: rest) progress =
      (readLines rules.files loc).bind fun lines =>
        inline rules (fileTasks loc lines ++ .finish name :: rest) (progress.enter loc name) := by
  obtain ⟨hname, hloc⟩ := target?_eq_some_iff.mp htarget
  rw [inline]
  simp only [hname]
  split
  · next hnone => simp [hloc] at hnone
  · next found hfound =>
    obtain rfl : loc = found := by simpa [hloc] using hfound
    rw [dif_neg (not_or.mpr ⟨hexcluded, hnew⟩)]
    cases readLines rules.files loc <;> rfl

/-- Tasks are carried out from the top of the stack down. -/
theorem inline_append
    (rules : Rules) (tasks rest : List Task) (progress : Progress) :
    inline rules (tasks ++ rest) progress =
      (inline rules tasks progress).bind (inline rules rest) := by
  fun_induction inline rules tasks progress with
  | case1 progress => rfl
  | case2 progress name tasks ih =>
      simpa using ih
  | case3 progress dir line tasks hname ih =>
      have htarget : rules.target? dir line = none := by simp [Rules.target?, hname]
      rw [List.cons_append, inline_source htarget]
      exact ih
  | case4 progress dir line tasks name hname hfound ih =>
      have htarget : rules.target? dir line = none := by
        simp [Rules.target?, hname, hfound]
      rw [List.cons_append, inline_source htarget, copySource_of_includeName? hname]
      exact ih
  | case5 progress dir line tasks name hname loc hfound hpass ih =>
      rw [List.cons_append, inline_pass (target?_eq_some_iff.mpr ⟨hname, hfound⟩) hpass]
      exact ih
  | case6 progress dir line tasks name hname loc hfound hnew e hread =>
      have hnew := not_or.mp hnew
      rw [List.cons_append,
        inline_open (target?_eq_some_iff.mpr ⟨hname, hfound⟩) hnew.1 hnew.2, hread]
      rfl
  | case7 progress dir line tasks name hname loc hfound hnew lines hread ih =>
      have hnew := not_or.mp hnew
      rw [List.cons_append,
        inline_open (target?_eq_some_iff.mpr ⟨hname, hfound⟩) hnew.1 hnew.2, hread]
      simpa [Except.bind] using ih

/-! ## One file -/

theorem fileTasks_cons (file : Location) (line : String) (lines : List String) :
    fileTasks file (line :: lines) = .line file.parent line :: fileTasks file lines :=
  rfl

/-- An include that opens a file amounts to the lines of that file, and then to the lines that
stand below the include. -/
theorem inline_enter
    {rules : Rules} {file loc : Location} {line name : String} {lines content : List String}
    {progress : Progress}
    (htarget : rules.target? file.parent line = some (name, loc))
    (hexcluded : loc ∉ rules.excluded) (hnew : loc ∉ progress.opened)
    (hread : readLines rules.files loc = .ok content) :
    inline rules (fileTasks file (line :: lines)) progress =
      (inline rules (fileTasks loc content) (progress.enter loc name)).bind fun inner =>
        inline rules (fileTasks file lines) (inner.endLine.remark .finish name) := by
  rw [fileTasks_cons, inline_open htarget hexcluded hnew, hread]
  change inline rules (fileTasks loc content ++ _) _ = _
  rw [inline_append]
  congr 1
  funext inner
  exact inline_finish rules name (fileTasks file lines) inner

theorem inline_unreadable
    {rules : Rules} {file loc : Location} {line name : String} {lines : List String}
    {progress : Progress} {e : Failure}
    (htarget : rules.target? file.parent line = some (name, loc))
    (hexcluded : loc ∉ rules.excluded) (hnew : loc ∉ progress.opened)
    (hread : readLines rules.files loc = .error e) :
    inline rules (fileTasks file (line :: lines)) progress = .error e := by
  rw [fileTasks_cons, inline_open htarget hexcluded hnew, hread]
  rfl

theorem opened_suffix_of_inline
    {rules : Rules} {tasks : List Task} {progress final : Progress}
    (h : inline rules tasks progress = .ok final) :
    progress.opened <:+ final.opened := by
  fun_induction inline rules tasks progress with
  | case1 progress =>
      cases h
      exact List.suffix_refl _
  | case2 progress name tasks ih => simpa using ih h
  | case3 progress dir line tasks hname ih => simpa using ih h
  | case4 progress dir line tasks name hname hfound ih => simpa using ih h
  | case5 progress dir line tasks name hname loc hfound hpass ih => simpa using ih h
  | case6 => cases h
  | case7 progress dir line tasks name hname loc hfound hnew lines hread ih =>
      exact (List.suffix_cons loc progress.opened).trans (by simpa using ih h)

theorem unopened_le_of_subset
    {files : FileSystem} {opened others : List Location} (h : opened ⊆ others) :
    unopened files others ≤ unopened files opened := by
  refine List.countP_mono_left fun loc _ hloc => ?_
  simp only [decide_eq_true_eq] at hloc ⊢
  exact fun hopened => hloc (h hopened)

/-- To show something of the lines of a file, show it for each thing that can become of the first
line.  The lines of an included file and the lines below the include are two smaller cases, and the
progress after the included file is the one from which the lines below are carried out. -/
@[elab_as_elim]
theorem fileLines_induction
    (rules : Rules) {motive : Location → List String → Progress → Prop}
    (nil : ∀ file progress, motive file [] progress)
    (source : ∀ file line lines progress,
      rules.target? file.parent line = none →
      motive file lines (progress.copySource line) →
      motive file (line :: lines) progress)
    (pass : ∀ file line lines progress name loc,
      rules.target? file.parent line = some (name, loc) →
      (loc ∈ rules.excluded ∨ loc ∈ progress.opened) →
      motive file lines (passOver rules progress line name loc) →
      motive file (line :: lines) progress)
    (unreadable : ∀ file line lines progress name loc e,
      rules.target? file.parent line = some (name, loc) →
      loc ∉ rules.excluded → loc ∉ progress.opened →
      readLines rules.files loc = .error e →
      motive file (line :: lines) progress)
    (enter : ∀ file line lines progress name loc content,
      rules.target? file.parent line = some (name, loc) →
      loc ∉ rules.excluded → loc ∉ progress.opened →
      readLines rules.files loc = .ok content →
      motive loc content (progress.enter loc name) →
      (∀ inner, inline rules (fileTasks loc content) (progress.enter loc name) = .ok inner →
        motive file lines (inner.endLine.remark .finish name)) →
      motive file (line :: lines) progress)
    (file : Location) (lines : List String) (progress : Progress) :
    motive file lines progress :=
  match lines with
  | [] => nil file progress
  | line :: lines => by
      cases htarget : rules.target? file.parent line with
      | none =>
          exact source file line lines progress htarget
            (fileLines_induction rules nil source pass unreadable enter file lines _)
      | some found =>
          obtain ⟨name, loc⟩ := found
          by_cases hpass : loc ∈ rules.excluded ∨ loc ∈ progress.opened
          · exact pass file line lines progress name loc htarget hpass
              (fileLines_induction rules nil source pass unreadable enter file lines _)
          · obtain ⟨hexcluded, hnew⟩ := not_or.mp hpass
            have hfewer : unopened rules.files (loc :: progress.opened) <
                unopened rules.files progress.opened :=
              unopened_cons_lt
                (Scope.mem_fileLocations_of_resolve (target?_eq_some_iff.mp htarget).2) hnew
            cases hread : readLines rules.files loc with
            | error e =>
                exact unreadable file line lines progress name loc e htarget hexcluded hnew hread
            | ok content =>
                refine enter file line lines progress name loc content htarget hexcluded hnew hread
                  (fileLines_induction rules nil source pass unreadable enter loc content _) ?_
                intro inner hinner
                have hle : unopened rules.files (inner.endLine.remark .finish name).opened ≤
                    unopened rules.files (loc :: progress.opened) := by
                  simpa using unopened_le_of_subset (opened_suffix_of_inline hinner).subset
                exact fileLines_induction rules nil source pass unreadable enter file lines _
termination_by (unopened rules.files progress.opened, lines.length)
decreasing_by
  · rw [Progress.opened_copySource]
    exact Prod.Lex.right _ (Nat.lt_succ_self _)
  · rw [opened_passOver]
    exact Prod.Lex.right _ (Nat.lt_succ_self _)
  · rw [Progress.opened_enter]
    exact Prod.Lex.left _ _ hfewer
  · exact Prod.Lex.left _ _ (Nat.lt_of_le_of_lt hle hfewer)

end CrossGen.Combine
