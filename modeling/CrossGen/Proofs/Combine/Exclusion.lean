import CrossGen.Proofs.Combine.FirstVisit
import CrossGen.Proofs.Host.Layout

/-!
# Excluded files are never read

What excluded files hold has no influence on the combined text.  The statement compares two runs: on
two hosts that lead every include to the same file and agree on all files but the excluded ones,
combining gives the same result, be it a text or an error.
-/

namespace CrossGen.Combine

/-- The same rules on two file systems that hold the same in all files that are not excluded. -/
structure AgreeOutside (rules others : Rules) : Prop where
  resolve : ∀ dir name, rules.resolve dir name = others.resolve dir name
  excluded : rules.excluded = others.excluded
  keepExcluded : rules.keepExcluded = others.keepExcluded
  read : ∀ loc, loc ∉ rules.excluded → readLines rules.files loc = readLines others.files loc

theorem AgreeOutside.target?_eq
    {rules others : Rules} (h : AgreeOutside rules others) (dir : Location) (line : String) :
    rules.target? dir line = others.target? dir line := by
  unfold Rules.target?
  cases includeName? line with
  | none => rfl
  | some name =>
      dsimp only
      rw [h.resolve]

theorem AgreeOutside.passOver_eq
    {rules others : Rules} (h : AgreeOutside rules others)
    (progress : Progress) (line name : String) (loc : Location) :
    passOver rules progress line name loc = passOver others progress line name loc := by
  unfold passOver
  rw [h.excluded, h.keepExcluded]

/-- Inlining reads no file that is excluded: it goes the same way on both file systems, whatever
becomes of it. -/
theorem AgreeOutside.inline_eq
    {rules others : Rules} (h : AgreeOutside rules others)
    (file : Location) (lines : List String) (progress : Progress) :
    inline rules (fileTasks file lines) progress =
      inline others (fileTasks file lines) progress := by
  induction file, lines, progress using fileLines_induction rules with
  | nil file progress => rw [fileTasks, List.map_nil, inline_nil, inline_nil]
  | source file line lines progress htarget ih =>
      have htarget' := (h.target?_eq file.parent line).symm.trans htarget
      rw [fileTasks_cons, inline_source htarget, inline_source htarget']
      exact ih
  | pass file line lines progress name loc htarget hpass ih =>
      have htarget' := (h.target?_eq file.parent line).symm.trans htarget
      rw [fileTasks_cons, inline_pass htarget hpass, inline_pass htarget' (h.excluded ▸ hpass),
        ← h.passOver_eq]
      exact ih
  | unreadable file line lines progress name loc e htarget hexcluded hnew hread =>
      have htarget' := (h.target?_eq file.parent line).symm.trans htarget
      have hread' := (h.read loc hexcluded).symm.trans hread
      rw [inline_unreadable htarget hexcluded hnew hread,
        inline_unreadable htarget' (h.excluded ▸ hexcluded) hnew hread']
  | enter file line lines progress name loc content htarget hexcluded hnew hread ihbody ihrest =>
      have htarget' := (h.target?_eq file.parent line).symm.trans htarget
      have hread' := (h.read loc hexcluded).symm.trans hread
      rw [inline_enter htarget hexcluded hnew hread,
        inline_enter htarget' (h.excluded ▸ hexcluded) hnew hread', ← ihbody]
      cases hinner : inline rules (fileTasks loc content) (progress.enter loc name) with
      | error e => rfl
      | ok inner => exact ihrest inner hinner

theorem AgreeOutside.combine_eq
    {rules others : Rules} (h : AgreeOutside rules others) {input : Path}
    (hlocate : rules.files.locate rules.here input = others.files.locate others.here input)
    (hinput : ∀ loc, rules.files.locate rules.here input = .ok loc → loc ∉ rules.excluded) :
    combine rules input = combine others input := by
  cases hstart : rules.files.locate rules.here input with
  | error e =>
      rw [combine_of_locate_error hstart,
        combine_of_locate_error (hlocate.symm.trans hstart)]
  | ok start =>
      rw [combine_of_locate hstart, combine_of_locate (hlocate.symm.trans hstart),
        ← h.read start (hinput start hstart)]
      cases hread : readLines rules.files start with
      | error e => rfl
      | ok lines => exact h.inline_eq start lines _

/-! ## Two file systems of one layout -/

theorem resolve_eq_of_sameLayout
    {files others : FileSystem} {here : Location} (h : SameLayout here files others)
    (roots : List Path) (dir : Option Location) (name : Path) :
    Scope.resolve ⟨files, here, roots⟩ dir name = Scope.resolve ⟨others, here, roots⟩ dir name := by
  unfold Scope.resolve
  congr 1
  funext base
  exact h.fileAt?_eq (base.join name)

theorem excluded_eq_of_sameLayout
    {files others : FileSystem} {here : Location} (h : SameLayout here files others)
    (roots excludes : List Path) (keepExcluded : Bool) :
    (Rules.make ⟨files, here, roots⟩ excludes keepExcluded).excluded =
      (Rules.make ⟨others, here, roots⟩ excludes keepExcluded).excluded := by
  have hresolve : Scope.resolve ⟨files, here, roots⟩ none =
      Scope.resolve ⟨others, here, roots⟩ none := by
    funext exclude
    exact resolve_eq_of_sameLayout h roots none exclude
  simp only [Rules.make, hresolve]

theorem readLines_eq_of_contentAt_eq
    {files others : FileSystem} {loc : Location}
    (h : files.contentAt loc = others.contentAt loc) :
    readLines files loc = readLines others loc := by
  unfold readLines
  rw [h]

theorem agreeOutside_of_sameLayout
    {files others : FileSystem} {here : Location} (h : SameLayout here files others)
    (roots excludes : List Path) (keepExcluded : Bool)
    (hcontent : ∀ loc, loc ∉ (Rules.make ⟨files, here, roots⟩ excludes keepExcluded).excluded →
      files.contentAt loc = others.contentAt loc) :
    AgreeOutside (.make ⟨files, here, roots⟩ excludes keepExcluded)
      (.make ⟨others, here, roots⟩ excludes keepExcluded) where
  resolve := resolve_eq_of_sameLayout h roots
  excluded := excluded_eq_of_sameLayout h roots excludes keepExcluded
  keepExcluded := rfl
  read := fun loc hloc => readLines_eq_of_contentAt_eq (hcontent loc hloc)

theorem not_mem_excluded_of_mem_files
    {rules : Rules} {file : Location} {lines : List String} {listing : Listing}
    (hlisting : Describes rules file lines listing) {loc : Location}
    (hloc : loc ∈ listing.files) : loc ∉ rules.excluded := by
  induction hlisting with
  | done => cases hloc
  | source htarget hrest ih => exact ih hloc
  | excluded htarget hexcluded hrest ih => exact ih hloc
  | repeated htarget hexcluded hrest ih => exact ih hloc
  | inlined htarget hexcluded hread hbody hrest ihbody ihrest =>
      rcases List.mem_cons.mp hloc with rfl | hloc
      · exact hexcluded
      · exact (List.mem_append.mp hloc).elim ihbody ihrest

/-- Two file systems of one layout that differ only in what excluded files hold give the same
combined text or the same error, from any input that is not excluded itself.  None of the files that
are opened on the way to a text is excluded. -/
theorem combine_ignores_excluded_files
    (files others : FileSystem) (here : Location) (roots excludes : List Path)
    (keepExcluded : Bool) (input : Path)
    (hlayout : SameLayout here files others)
    (hcontent : ∀ loc, loc ∉ (Rules.make ⟨files, here, roots⟩ excludes keepExcluded).excluded →
      files.contentAt loc = others.contentAt loc)
    (hinput : ∀ loc, files.locate here input = .ok loc →
      loc ∉ (Rules.make ⟨files, here, roots⟩ excludes keepExcluded).excluded) :
    combine (.make ⟨files, here, roots⟩ excludes keepExcluded) input =
        combine (.make ⟨others, here, roots⟩ excludes keepExcluded) input ∧
      ∀ progress,
        combine (.make ⟨files, here, roots⟩ excludes keepExcluded) input = .ok progress →
        ∀ loc ∈ progress.opened,
          loc ∉ (Rules.make ⟨files, here, roots⟩ excludes keepExcluded).excluded := by
  have hagree := agreeOutside_of_sameLayout hlayout roots excludes keepExcluded hcontent
  refine ⟨hagree.combine_eq (hlayout.locate input) hinput, ?_⟩
  intro progress hcombine loc hloc
  obtain ⟨start, listing, hstart, hvisits, rfl⟩ := combine_eq_ok_iff.mp hcombine
  obtain ⟨lines, -, hlisting⟩ := hvisits.describes
  rw [opened_play] at hloc
  rcases List.mem_append.mp hloc with hloc | hloc
  · exact not_mem_excluded_of_mem_files hlisting (List.mem_reverse.mp hloc)
  · obtain rfl := List.mem_singleton.mp hloc
    exact hinput loc hstart

/-- Sealing the file that is left out changes nothing. -/
theorem combine_mutual_files_sealed :
    combine (.make mutualScope [⟨"x.h"⟩] false) ⟨"a.c"⟩ =
      combine
        (.make ⟨mutualScope.files.put ⟨["x.h"]⟩ (.sealed .accessDenied), .root, [⟨"/"⟩]⟩
          [⟨"x.h"⟩] false)
        ⟨"a.c"⟩ := by
  have hexcluded : (Rules.make mutualScope [⟨"x.h"⟩] false).excluded = [⟨["x.h"]⟩] := by
    decide +kernel
  have hold : mutualScope.files.node? ⟨["x.h"]⟩ = some (.file "int x;\n".toUTF8 false) := by
    rfl
  have hkinds : mutualScope.files.SameKinds
      (mutualScope.files.put ⟨["x.h"]⟩ (.sealed .accessDenied)) :=
    FileSystem.sameKinds_put hold rfl rfl
  have hcontent : ∀ loc, loc ∉ (Rules.make mutualScope [⟨"x.h"⟩] false).excluded →
      mutualScope.files.contentAt loc =
        (mutualScope.files.put ⟨["x.h"]⟩ (.sealed .accessDenied)).contentAt loc := by
    intro loc hloc
    have hne : loc ≠ ⟨["x.h"]⟩ := by simpa [hexcluded] using hloc
    rw [FileSystem.contentAt, FileSystem.contentAt, FileSystem.node?_put_of_ne _ _ hne]
  have hinput : ∀ loc, mutualScope.files.locate .root ⟨"a.c"⟩ = .ok loc →
      loc ∉ (Rules.make mutualScope [⟨"x.h"⟩] false).excluded := by
    have hlocate : mutualScope.files.locate .root ⟨"a.c"⟩ = .ok ⟨["a.c"]⟩ := by rfl
    intro loc hloc
    obtain rfl := Except.ok.inj (hlocate.symm.trans hloc)
    decide +kernel
  exact (combine_ignores_excluded_files _ _ .root [⟨"/"⟩] [⟨"x.h"⟩] false ⟨"a.c"⟩
    (FileSystem.sameLayout_of_sameKinds hkinds .root) hcontent hinput).1

end CrossGen.Combine
