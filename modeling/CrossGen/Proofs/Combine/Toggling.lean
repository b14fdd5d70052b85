import CrossGen.Proofs.Combine.Entering
import CrossGen.Proofs.Combine.Rows

/-!
# Excluded includes, kept or not

Whether excluded includes are kept decides what is written where one is met, and nothing else.  The
two runs go side by side: each move of the one is a move of the other that enters the same files and
leaves the same to be done, whatever the two texts are by then.  They end with the same failure, or
with texts that have the same rows.
-/

namespace CrossGen.Combine

/-- The rules with another answer to whether excluded includes are kept. -/
def Rules.keeping (rules : Rules) (keepExcluded : Bool) : Rules :=
  { rules with keepExcluded := keepExcluded }

variable {rules : Rules} {input : Path} {phase other next : Phase} {log entered : List Location}

/-! ## Two runs side by side -/

/-- Two phases with the same tasks left and the same files opened, or with the same failure. -/
inductive Phase.Alike : Phase → Phase → Prop
  | starting : Alike .starting .starting
  | working {tasks : List Task} {progress progress' : Progress}
      (hopened : progress'.opened = progress.opened) :
      Alike (.working tasks progress) (.working tasks progress')
  | failed {depth : Nat} {failure : Failure} : Alike (.failed depth failure) (.failed depth failure)

theorem Entrance.exists_alike
    {loc : Location} {rest : List Task} {progress : Progress}
    (entrance : Entrance rules input phase loc rest progress) (h : phase.Alike other)
    (keepExcluded : Bool) :
    ∃ progress', Entrance (rules.keeping keepExcluded) input other loc rest progress' ∧
      progress'.opened = progress.opened := by
  cases entrance with
  | input hlocate =>
      cases h with
      | starting => exact ⟨_, .input hlocate, rfl⟩
  | inclusion htarget hexcluded hnew =>
      cases h with
      | working hopened =>
          refine ⟨_, .inclusion htarget hexcluded (hopened ▸ hnew), ?_⟩
          rw [Progress.opened_enter, Progress.opened_enter, hopened]

theorem Step.exists_alike
    (step : Step rules input phase entered next) (h : phase.Alike other) (keepExcluded : Bool) :
    ∃ next', Step (rules.keeping keepExcluded) input other entered next' ∧ next.Alike next' := by
  cases step with
  | lost hlocate =>
      cases h with
      | starting => exact ⟨_, .lost hlocate, .failed⟩
  | enter entrance hread =>
      obtain ⟨progress, entrance, hopened⟩ := entrance.exists_alike h keepExcluded
      exact ⟨_, .enter entrance hread, .working hopened⟩
  | unreadable entrance hread =>
      obtain ⟨progress, entrance, -⟩ := entrance.exists_alike h keepExcluded
      exact ⟨_, .unreadable entrance hread, .failed⟩
  | finish =>
      cases h with
      | working hopened => exact ⟨_, .finish, .working (by simpa using hopened)⟩
  | source htarget =>
      cases h with
      | working hopened => exact ⟨_, .source htarget, .working (by simpa using hopened)⟩
  | pass htarget hpass =>
      cases h with
      | working hopened =>
          exact ⟨_, .pass htarget (hopened ▸ hpass), .working (by simpa using hopened)⟩

theorem Run.exists_alike (run : Run rules input log phase) (keepExcluded : Bool) :
    ∃ other, Run (rules.keeping keepExcluded) input log other ∧ phase.Alike other := by
  induction run with
  | nil => exact ⟨.starting, .nil, .starting⟩
  | snoc run step ih =>
      obtain ⟨other, run', halike⟩ := ih
      obtain ⟨next', step', hnext⟩ := step.exists_alike halike keepExcluded
      exact ⟨next', run'.snoc step', hnext⟩

/-- A phase that is like one with an answer has an answer too: the same failure, or a progress with
the same files opened. -/
theorem Phase.Alike.exists_outcome
    {answer : Except Failure Progress} (h : phase.Alike other)
    (houtcome : phase.outcome? = some answer) :
    ∃ answer', other.outcome? = some answer' ∧
      answer'.map Progress.opened = answer.map Progress.opened := by
  cases h with
  | starting => cases houtcome
  | @working tasks progress progress' hopened =>
      cases tasks with
      | nil =>
          cases houtcome
          exact ⟨.ok progress', rfl, congrArg Except.ok hopened⟩
      | cons task rest => cases houtcome
  | failed =>
      cases houtcome
      exact ⟨_, rfl, rfl⟩

/-! ## One listing for both -/

theorem Describes.keeping
    {file : Location} {lines : List String} {listing : Listing}
    (h : Describes rules file lines listing) (keepExcluded : Bool) :
    Describes (rules.keeping keepExcluded) file lines listing := by
  induction h with
  | done => exact .done
  | source htarget hrest ih => exact .source htarget ih
  | excluded htarget hexcluded hrest ih => exact .excluded htarget hexcluded ih
  | repeated htarget hexcluded hrest ih => exact .repeated htarget hexcluded ih
  | inlined htarget hexcluded hread hbody hrest ihbody ihrest =>
      exact .inlined htarget hexcluded hread ihbody ihrest

theorem FirstVisits.keeping
    {start : Location} {listing : Listing} (h : FirstVisits rules start listing)
    (keepExcluded : Bool) : FirstVisits (rules.keeping keepExcluded) start listing := by
  obtain ⟨lines, hread, hlisting⟩ := h.describes
  exact ⟨⟨lines, hread, hlisting.keeping keepExcluded⟩, h.first⟩

/-- If combining succeeds, it does so with either answer, and the two texts have the rows of one
listing. -/
theorem exists_combine_keeping_of_ok
    {progress : Progress} (hcombine : combine rules input = .ok progress) (keepExcluded : Bool) :
    ∃ start listing progress',
      FirstVisits rules start listing ∧ progress.opened.reverse = start :: listing.files ∧
      combine (rules.keeping keepExcluded) input = .ok progress' ∧
      Text.lines progress.text =
        (listing.rows start).flatMap (Row.lines start rules.keepExcluded) ∧
      Text.lines progress'.text = (listing.rows start).flatMap (Row.lines start keepExcluded) := by
  obtain ⟨start, listing, hstart, hvisits, rfl⟩ := combine_eq_ok_iff.mp hcombine
  have hvisits' := hvisits.keeping keepExcluded
  refine ⟨start, listing, _, hvisits, by simp [opened_play],
    combine_eq_ok_iff.mpr ⟨start, listing, hstart, hvisits', rfl⟩, hvisits.lines_text_play,
    hvisits'.lines_text_play⟩

end CrossGen.Combine
