import CrossGen.Proofs.Combine.FirstVisit

/-!
# Depth first

Combining meets files depth first: a file, then the files that it includes, each of them with all that
is found below it before the next one.  The order of the files is described here without the text
that is made of them, and so that files that cannot be read have a place in it as well.  There is one
such order for every input, it holds the files that can be reached, and combining goes along it until
it ends or comes to a file that cannot be read.
-/

namespace CrossGen.Combine

/-- The file that a line includes, unless it is excluded. -/
def Rules.included? (rules : Rules) (dir : Location) (line : String) : Option Location :=
  ((rules.target? dir line).map Prod.snd).filter fun loc => loc ∉ rules.excluded

/-- The files that the given lines of a file include, one after the other, without those that are
excluded. -/
def Rules.includesOf (rules : Rules) (file : Location) (lines : List String) : List Location :=
  lines.filterMap (rules.included? file.parent)

/-- The files that a file includes.  A file that cannot be read includes none. -/
def Rules.includes (rules : Rules) (file : Location) : List Location :=
  match readLines rules.files file with
  | .error _ => []
  | .ok lines => rules.includesOf file lines

variable {rules : Rules} {file loc : Location} {line name : String} {lines : List String}

theorem included?_eq_some_iff {dir : Location} :
    rules.included? dir line = some loc ↔
      ∃ name, rules.target? dir line = some (name, loc) ∧ loc ∉ rules.excluded := by
  rw [Rules.included?, Option.filter_eq_some_iff, Option.map_eq_some_iff]
  constructor
  · rintro ⟨⟨⟨name, _⟩, htarget, rfl⟩, hexcluded⟩
    exact ⟨name, htarget, by simpa using hexcluded⟩
  · rintro ⟨name, htarget, hexcluded⟩
    exact ⟨⟨(name, loc), htarget, rfl⟩, by simpa using hexcluded⟩

theorem includesOf_cons_of_none (h : rules.included? file.parent line = none) :
    rules.includesOf file (line :: lines) = rules.includesOf file lines :=
  List.filterMap_cons_none h

theorem includesOf_cons_of_some (h : rules.included? file.parent line = some loc) :
    rules.includesOf file (line :: lines) = loc :: rules.includesOf file lines :=
  List.filterMap_cons_some h

theorem includes_of_readLines (h : readLines rules.files file = .ok lines) :
    rules.includes file = rules.includesOf file lines := by
  rw [Rules.includes, h]

theorem mem_includes_iff : loc ∈ rules.includes file ↔ Includes rules file loc := by
  unfold Rules.includes Includes
  cases hread : readLines rules.files file with
  | error e => simp
  | ok lines =>
      simp only [Rules.includesOf, List.mem_filterMap, included?_eq_some_iff]
      constructor
      · rintro ⟨line, hline, name, htarget, hexcluded⟩
        exact ⟨lines, line, name, rfl, hline, htarget, hexcluded⟩
      · rintro ⟨_, line, name, ⟨⟩, hline, htarget, hexcluded⟩
        exact ⟨line, hline, name, htarget, hexcluded⟩

theorem mem_fileLocations_of_mem_includes (h : loc ∈ rules.includes file) :
    loc ∈ rules.files.fileLocations := by
  obtain ⟨lines, line, name, -, -, htarget, -⟩ := mem_includes_iff.mp h
  exact Scope.mem_fileLocations_of_resolve (target?_eq_some_iff.mp htarget).2

/-! ## The order -/

/-- The files that are found depth first from those in `locs`, in this order, if the files in `seen`
have been found before. -/
inductive DepthFirst (rules : Rules) : List Location → List Location → List Location → Prop
  | done {seen : List Location} : DepthFirst rules seen [] []
  | again {seen locs order : List Location} {loc : Location}
      (hseen : loc ∈ seen) (hrest : DepthFirst rules seen locs order) :
      DepthFirst rules seen (loc :: locs) order
  | visit {seen locs inner order : List Location} {loc : Location}
      (hnew : loc ∉ seen) (hinner : DepthFirst rules (loc :: seen) (rules.includes loc) inner)
      (hrest : DepthFirst rules (inner.reverse ++ loc :: seen) locs order) :
      DepthFirst rules seen (loc :: locs) (loc :: (inner ++ order))

theorem exists_depthFirst (seen locs : List Location)
    (hlocs : ∀ loc ∈ locs, loc ∈ rules.files.fileLocations) :
    ∃ order, DepthFirst rules seen locs order :=
  match locs with
  | [] => ⟨[], .done⟩
  | loc :: locs => by
      obtain ⟨hloc, hrest⟩ := List.forall_mem_cons.mp hlocs
      by_cases hseen : loc ∈ seen
      · obtain ⟨order, horder⟩ := exists_depthFirst seen locs hrest
        exact ⟨order, .again hseen horder⟩
      · have hfewer : unopened rules.files (loc :: seen) < unopened rules.files seen :=
          unopened_cons_lt hloc hseen
        obtain ⟨inner, hinner⟩ := exists_depthFirst (loc :: seen) (rules.includes loc)
          fun _ => mem_fileLocations_of_mem_includes
        have hle : unopened rules.files (inner.reverse ++ loc :: seen) ≤
            unopened rules.files (loc :: seen) :=
          unopened_le_of_subset (List.subset_append_right _ _)
        obtain ⟨order, horder⟩ := exists_depthFirst (inner.reverse ++ loc :: seen) locs hrest
        exact ⟨_, .visit hseen hinner horder⟩
termination_by (unopened rules.files seen, locs.length)
decreasing_by
  · exact Prod.Lex.right _ (Nat.lt_succ_self _)
  · exact Prod.Lex.left _ _ hfewer
  · exact Prod.Lex.left _ _ (Nat.lt_of_le_of_lt hle hfewer)

theorem exists_depthFirst_from (rules : Rules) (start : Location) :
    ∃ order, DepthFirst rules [] [start] order := by
  obtain ⟨inner, hinner⟩ := exists_depthFirst [start] (rules.includes start)
    fun _ => mem_fileLocations_of_mem_includes
  exact ⟨_, .visit List.not_mem_nil hinner .done⟩

variable {seen locs order other : List Location}

/-- There is no other order. -/
theorem DepthFirst.eq
    (h : DepthFirst rules seen locs order) (hother : DepthFirst rules seen locs other) :
    order = other := by
  induction h generalizing other with
  | done =>
      cases hother
      rfl
  | again hseen hrest ih =>
      cases hother with
      | again _ hrest' => exact ih hrest'
      | visit hnew => exact absurd hseen hnew
  | visit hnew hinner hrest ihinner ihrest =>
      cases hother with
      | again hseen => exact absurd hseen hnew
      | visit _ hinner' hrest' =>
          obtain rfl := ihinner hinner'
          rw [ihrest hrest']

/-- Nothing is left out: the files to start with and those that are included by a file of the order
are in the order, unless they were seen before. -/
theorem DepthFirst.closed (h : DepthFirst rules seen locs order) :
    (∀ loc ∈ locs, loc ∈ order ∨ loc ∈ seen) ∧
      ∀ file ∈ order, ∀ loc ∈ rules.includes file, loc ∈ order ∨ loc ∈ seen := by
  induction h with
  | done => exact ⟨nofun, nofun⟩
  | again hseen hrest ih =>
      refine ⟨?_, ih.2⟩
      intro loc hloc
      rcases List.mem_cons.mp hloc with rfl | hloc
      · exact Or.inr hseen
      · exact ih.1 loc hloc
  | @visit seen locs inner order first hnew hinner hrest ihinner ihrest =>
      -- What is seen after the first file and all below it belongs to the order or was seen before.
      have hlater {loc : Location} (h : loc ∈ order ∨ loc ∈ inner.reverse ++ first :: seen) :
          loc ∈ first :: (inner ++ order) ∨ loc ∈ seen := by
        simp only [List.mem_append, List.mem_reverse, List.mem_cons] at h ⊢
        tauto
      have hbelow {loc : Location} (h : loc ∈ inner ∨ loc ∈ first :: seen) :
          loc ∈ first :: (inner ++ order) ∨ loc ∈ seen := by
        simp only [List.mem_append, List.mem_cons] at h ⊢
        tauto
      constructor
      · intro loc hloc
        rcases List.mem_cons.mp hloc with rfl | hloc
        · exact Or.inl List.mem_cons_self
        · exact hlater (ihrest.1 loc hloc)
      · intro file hfile loc hincluded
        rcases List.mem_cons.mp hfile with rfl | hfile
        · exact hbelow (ihinner.1 loc hincluded)
        · rcases List.mem_append.mp hfile with hfile | hfile
          · exact hbelow (ihinner.2 file hfile loc hincluded)
          · exact hlater (ihrest.2 file hfile loc hincluded)

theorem DepthFirst.exists_reachable
    (h : DepthFirst rules seen locs order) (hloc : loc ∈ order) :
    ∃ start ∈ locs, Reachable rules start loc := by
  induction h with
  | done => cases hloc
  | again hseen hrest ih =>
      obtain ⟨start, hstart, hreach⟩ := ih hloc
      exact ⟨start, List.mem_cons_of_mem _ hstart, hreach⟩
  | @visit seen locs inner order first hnew hinner hrest ihinner ihrest =>
      rcases List.mem_cons.mp hloc with rfl | hloc
      · exact ⟨loc, List.mem_cons_self, .refl⟩
      · rcases List.mem_append.mp hloc with hloc | hloc
        · obtain ⟨start, hstart, hreach⟩ := ihinner hloc
          exact ⟨first, List.mem_cons_self, .head (mem_includes_iff.mp hstart) hreach⟩
        · obtain ⟨start, hstart, hreach⟩ := ihrest hloc
          exact ⟨start, List.mem_cons_of_mem _ hstart, hreach⟩

theorem DepthFirst.mem_iff {start : Location} (h : DepthFirst rules [] [start] order) :
    loc ∈ order ↔ Reachable rules start loc := by
  constructor
  · intro hloc
    obtain ⟨first, hfirst, hreach⟩ := h.exists_reachable hloc
    rwa [List.mem_singleton.mp hfirst] at hreach
  · intro hreach
    induction hreach with
    | refl => simpa using h.closed.1 start (List.mem_singleton_self start)
    | tail hreach hincludes ih => simpa using h.closed.2 _ ih _ (mem_includes_iff.mpr hincludes)

/-! ## Combining goes along the order -/

def AllReadable (rules : Rules) (order : List Location) : Prop :=
  ∀ loc ∈ order, ∃ lines, readLines rules.files loc = .ok lines

/-- The failure is that of the first file that cannot be read. -/
def FirstUnreadable (rules : Rules) (order : List Location) (failure : Failure) : Prop :=
  ∃ before loc after, order = before ++ loc :: after ∧ AllReadable rules before ∧
    readLines rules.files loc = .error failure

theorem allReadable_nil : AllReadable rules [] := by
  intro loc hloc
  cases hloc

theorem allReadable_cons (hread : readLines rules.files loc = .ok lines)
    (h : AllReadable rules order) : AllReadable rules (loc :: order) :=
  List.forall_mem_cons.mpr ⟨⟨lines, hread⟩, h⟩

theorem allReadable_append (h : AllReadable rules order) (hother : AllReadable rules other) :
    AllReadable rules (order ++ other) :=
  List.forall_mem_append.mpr ⟨h, hother⟩

variable {failure : Failure}

theorem FirstUnreadable.append_left
    (h : FirstUnreadable rules order failure) (hfront : AllReadable rules other) :
    FirstUnreadable rules (other ++ order) failure := by
  obtain ⟨before, loc, after, rfl, hbefore, hread⟩ := h
  exact ⟨other ++ before, loc, after, by simp, allReadable_append hfront hbefore, hread⟩

theorem FirstUnreadable.append_right
    (h : FirstUnreadable rules order failure) (other : List Location) :
    FirstUnreadable rules (order ++ other) failure := by
  obtain ⟨before, loc, after, rfl, hbefore, hread⟩ := h
  exact ⟨before, loc, after ++ other, by simp, hbefore, hread⟩

theorem firstUnreadable_cons (hread : readLines rules.files loc = .error failure) :
    FirstUnreadable rules (loc :: order) failure :=
  ⟨[], loc, order, rfl, allReadable_nil, hread⟩

theorem FirstUnreadable.cons
    (h : FirstUnreadable rules order failure) (hread : readLines rules.files loc = .ok lines) :
    FirstUnreadable rules (loc :: order) failure :=
  h.append_left (allReadable_cons hread allReadable_nil)

theorem AllReadable.not_firstUnreadable (h : AllReadable rules order) :
    ¬FirstUnreadable rules order failure := by
  rintro ⟨before, loc, after, rfl, -, hread⟩
  obtain ⟨lines, hlines⟩ := h loc (List.mem_append_right _ List.mem_cons_self)
  rw [hread] at hlines
  cases hlines

theorem FirstUnreadable.of_cons
    (h : FirstUnreadable rules (loc :: order) failure) :
    readLines rules.files loc = .error failure ∨
      (∃ lines, readLines rules.files loc = .ok lines) ∧ FirstUnreadable rules order failure := by
  obtain ⟨before, first, after, hsplit, hbefore, hread⟩ := h
  cases before with
  | nil =>
      obtain ⟨rfl, -⟩ := List.cons.inj hsplit
      exact Or.inl hread
  | cons head before =>
      obtain ⟨rfl, rfl⟩ := List.cons.inj hsplit
      obtain ⟨hhead, hothers⟩ := List.forall_mem_cons.mp hbefore
      exact Or.inr ⟨hhead, before, first, after, rfl, hothers, hread⟩

theorem FirstUnreadable.eq
    {failure' : Failure} (h : FirstUnreadable rules order failure)
    (h' : FirstUnreadable rules order failure') : failure = failure' := by
  induction order with
  | nil =>
      obtain ⟨before, loc, after, hsplit, -, -⟩ := h
      simp at hsplit
  | cons loc order ih =>
      rcases h.of_cons with hread | ⟨⟨lines, hlines⟩, hrest⟩
      · rcases h'.of_cons with hread' | ⟨⟨lines, hlines⟩, -⟩
        · exact Except.error.inj (hread.symm.trans hread')
        · rw [hread] at hlines
          cases hlines
      · rcases h'.of_cons with hread' | ⟨-, hrest'⟩
        · rw [hread'] at hlines
          cases hlines
        · exact ih hrest hrest'

theorem included?_eq_none (h : rules.target? file.parent line = none) :
    rules.included? file.parent line = none := by
  rw [Rules.included?, h]
  rfl

theorem included?_eq_none_of_excluded
    (h : rules.target? file.parent line = some (name, loc)) (hexcluded : loc ∈ rules.excluded) :
    rules.included? file.parent line = none := by
  rw [Option.eq_none_iff_forall_ne_some]
  intro other hother
  obtain ⟨name', htarget, hfree⟩ := included?_eq_some_iff.mp hother
  obtain ⟨-, rfl⟩ := target?_inj h htarget
  exact hfree hexcluded

/-- What becomes of inlining along an order: it opens all files of the order, or fails at the first
one that cannot be read. -/
def GoesAlong (rules : Rules) (order opened : List Location) : Except Failure Progress → Prop
  | .ok final => final.opened = order.reverse ++ opened ∧ AllReadable rules order
  | .error failure => FirstUnreadable rules order failure

theorem GoesAlong.cons
    {opened : List Location} {answer : Except Failure Progress}
    (h : GoesAlong rules order (loc :: opened) answer)
    (hread : readLines rules.files loc = .ok lines) :
    GoesAlong rules (loc :: order) opened answer := by
  cases answer with
  | error failure => exact FirstUnreadable.cons h hread
  | ok final =>
      obtain ⟨hopened, hall⟩ := h
      exact ⟨by simp [hopened], allReadable_cons hread hall⟩

theorem GoesAlong.append_left
    {opened : List Location} {answer : Except Failure Progress}
    (h : GoesAlong rules order (other.reverse ++ opened) answer)
    (hother : AllReadable rules other) : GoesAlong rules (other ++ order) opened answer := by
  cases answer with
  | error failure => exact FirstUnreadable.append_left h hother
  | ok final =>
      obtain ⟨hopened, hall⟩ := h
      exact ⟨by simp [hopened], allReadable_append hother hall⟩

/-- Inlining goes along the order of the files that are included. -/
theorem inline_goesAlong
    (file : Location) (lines : List String) (progress : Progress) {order : List Location}
    (horder : DepthFirst rules progress.opened (rules.includesOf file lines) order) :
    GoesAlong rules order progress.opened (inline rules (fileTasks file lines) progress) := by
  induction file, lines, progress using fileLines_induction rules generalizing order with
  | nil file progress =>
      cases horder
      rw [fileTasks, List.map_nil, inline_nil]
      exact ⟨rfl, allReadable_nil⟩
  | source file line lines progress htarget ih =>
      rw [includesOf_cons_of_none (included?_eq_none htarget)] at horder
      rw [fileTasks_cons, inline_source htarget]
      simpa using ih (by simpa using horder)
  | pass file line lines progress name loc htarget hpass ih =>
      rw [fileTasks_cons, inline_pass htarget hpass]
      have hlater :
          DepthFirst rules progress.opened (rules.includesOf file lines) order := by
        by_cases hexcluded : loc ∈ rules.excluded
        · rwa [includesOf_cons_of_none (included?_eq_none_of_excluded htarget hexcluded)] at horder
        · rw [includesOf_cons_of_some (included?_eq_some_iff.mpr ⟨name, htarget, hexcluded⟩)]
            at horder
          cases horder with
          | again _ hrest => exact hrest
          | visit hnew => exact absurd (hpass.resolve_left hexcluded) hnew
      simpa using ih (by simpa using hlater)
  | unreadable file line lines progress name loc e htarget hexcluded hnew hread =>
      rw [includesOf_cons_of_some (included?_eq_some_iff.mpr ⟨name, htarget, hexcluded⟩)] at horder
      rw [inline_unreadable htarget hexcluded hnew hread]
      cases horder with
      | again hseen => exact absurd hseen hnew
      | visit _ hinner hrest => exact firstUnreadable_cons hread
  | enter file line lines progress name loc content htarget hexcluded hnew hread ihbody ihrest =>
      rw [includesOf_cons_of_some (included?_eq_some_iff.mpr ⟨name, htarget, hexcluded⟩)] at horder
      rw [inline_enter htarget hexcluded hnew hread]
      cases horder with
      | again hseen => exact absurd hseen hnew
      | @visit _ _ below order _ _ hinner hrest =>
          rw [includes_of_readLines hread] at hinner
          have hbody := ihbody hinner
          cases hanswer : inline rules (fileTasks loc content) (progress.enter loc name) with
          | error failure =>
              rw [hanswer] at hbody
              exact FirstUnreadable.cons (FirstUnreadable.append_right hbody order) hread
          | ok inner =>
              rw [hanswer] at hbody
              obtain ⟨hopened, hall⟩ := hbody
              have hlater : (inner.endLine.remark .finish name).opened =
                  below.reverse ++ loc :: progress.opened := by
                rw [Progress.opened_remark, Progress.opened_endLine, hopened,
                  Progress.opened_enter]
              have hgoes := ihrest inner hanswer (hlater.symm ▸ hrest)
              rw [hlater] at hgoes
              exact (hgoes.append_left hall).cons hread

/-- Combining fails exactly at the first file of the order from its input that cannot be read. -/
theorem combine_goesAlong
    {input : Path} {start : Location} {order : List Location}
    (hlocate : rules.files.locate rules.here input = .ok start)
    (horder : DepthFirst rules [] [start] order) :
    GoesAlong rules order [] (combine rules input) := by
  rw [combine_of_locate hlocate]
  cases horder with
  | again hseen => cases hseen
  | @visit _ _ inner _ _ _ hinner hrest =>
      cases hrest
      rw [List.append_nil]
      cases hread : readLines rules.files start with
      | error failure => exact firstUnreadable_cons hread
      | ok lines =>
          rw [includes_of_readLines hread] at hinner
          exact (inline_goesAlong start lines ⟨[start], #[]⟩ hinner).cons hread

end CrossGen.Combine
