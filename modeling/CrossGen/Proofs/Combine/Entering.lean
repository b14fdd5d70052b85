import CrossGen.Proofs.Combine.FirstVisit
import CrossGen.Proofs.Host.Walking
import Mathlib.Data.Finset.Card
import Mathlib.Data.Finset.Option
import Mathlib.Data.Prod.Lex
import Mathlib.Order.WellFounded

/-!
# Combining comes to its end

The work of combining is described here move by move, with a log of the files that are entered and
read.  No file is entered twice, so that the log and the nesting of files are bounded by the number
of files there are, however these include each other.  The moves cannot go on for ever, and they end
with what `combine` answers.
-/

namespace CrossGen

namespace FileSystem

def regularFiles (files : FileSystem) : Finset Location :=
  files.fileLocations.toFinset.filter fun loc => (files.node? loc).any Node.isFile = true

theorem mem_regularFiles_iff {files : FileSystem} {loc : Location} :
    loc ∈ files.regularFiles ↔ ∃ node, files.node? loc = some node ∧ node.isFile = true := by
  rw [regularFiles, Finset.mem_filter, List.mem_toFinset, Option.any_eq_true]
  constructor
  · rintro ⟨-, hfile⟩
    exact hfile
  · rintro ⟨node, hnode, hfile⟩
    exact ⟨mem_fileLocations hnode hfile, node, hnode, hfile⟩

end FileSystem

namespace Combine

/-- The files that combining may enter: the input and the regular files. -/
def Scope.candidates (scope : Scope) (input : Path) : Finset Location :=
  (scope.files.locate scope.here input).toOption.toFinset ∪ scope.files.regularFiles

theorem mem_candidates_of_locate
    {scope : Scope} {input : Path} {start : Location}
    (h : scope.files.locate scope.here input = .ok start) : start ∈ scope.candidates input := by
  apply Finset.mem_union_left
  rw [h, Option.mem_toFinset]
  rfl

theorem mem_candidates_of_resolve
    {scope : Scope} {dir : Option Location} {name : Path} {loc : Location}
    (h : scope.resolve dir name = some loc) (input : Path) : loc ∈ scope.candidates input := by
  obtain ⟨base, -, hbase⟩ := List.exists_of_findSome?_eq_some h
  apply Finset.mem_union_right
  exact FileSystem.mem_regularFiles_iff.mpr (FileSystem.fileAt?_eq_some_iff.mp hbase).2

/-! ## Moves -/

def Task.isFinish : Task → Bool
  | .finish _ => true
  | .line .. => false

/-- The number of files that are being inlined while the given tasks are left: the input, and those
whose end is still to come. -/
def nesting (tasks : List Task) : Nat :=
  tasks.countP Task.isFinish + 1

@[simp] theorem nesting_line (dir : Location) (line : String) (rest : List Task) :
    nesting (.line dir line :: rest) = nesting rest := by
  rw [nesting, List.countP_cons_of_neg Bool.false_ne_true, nesting]

@[simp] theorem nesting_finish (name : String) (rest : List Task) :
    nesting (.finish name :: rest) = nesting rest + 1 := by
  rw [nesting, List.countP_cons_of_pos rfl, nesting]

theorem nesting_fileTasks_append (loc : Location) (lines : List String) (rest : List Task) :
    nesting (fileTasks loc lines ++ rest) = nesting rest := by
  induction lines with
  | nil => rfl
  | cons line lines ih => rw [fileTasks_cons, List.cons_append, nesting_line, ih]

/-- How far combining has come: it has done nothing yet, has tasks left, or has failed while a number
of files were being inlined. -/
inductive Phase where
  | starting
  | working (tasks : List Task) (progress : Progress)
  | failed (depth : Nat) (failure : Failure)

namespace Phase

/-- The number of files that are being inlined, each of them included by the one before it. -/
def depth : Phase → Nat
  | starting => 0
  | working tasks _ => nesting tasks
  | failed depth _ => depth

def outcome? : Phase → Option (Except Failure Progress)
  | working [] progress => some (.ok progress)
  | failed _ failure => some (.error failure)
  | _ => none

end Phase

/-- A file is to be entered: the input, or a file that a line includes and that is neither excluded
nor opened before.  Its lines are begun with `progress` and followed by the tasks in `rest`. -/
inductive Entrance (rules : Rules) (input : Path) :
    Phase → Location → List Task → Progress → Prop
  | input {start : Location}
      (hlocate : rules.files.locate rules.here input = .ok start) :
      Entrance rules input .starting start [] ⟨[start], #[]⟩
  | inclusion {dir loc : Location} {line name : String} {rest : List Task} {progress : Progress}
      (htarget : rules.target? dir line = some (name, loc))
      (hexcluded : loc ∉ rules.excluded) (hnew : loc ∉ progress.opened) :
      Entrance rules input (.working (.line dir line :: rest) progress) loc
        (.finish name :: rest) (progress.enter loc name)

/-- The moves, each with the files that it enters.  A file is read when it is entered, and at no
other time. -/
inductive Step (rules : Rules) (input : Path) : Phase → List Location → Phase → Prop
  | lost {e : IoError}
      (hlocate : rules.files.locate rules.here input = .error e) :
      Step rules input .starting []
        (.failed 0 (.combine (input.text ++ ": " ++ e.message)))
  | enter {phase : Phase} {loc : Location} {rest : List Task} {progress : Progress}
      {lines : List String}
      (entrance : Entrance rules input phase loc rest progress)
      (hread : readLines rules.files loc = .ok lines) :
      Step rules input phase [loc] (.working (fileTasks loc lines ++ rest) progress)
  | unreadable {phase : Phase} {loc : Location} {rest : List Task} {progress : Progress}
      {failure : Failure}
      (entrance : Entrance rules input phase loc rest progress)
      (hread : readLines rules.files loc = .error failure) :
      Step rules input phase [loc] (.failed (nesting rest) failure)
  | finish {name : String} {rest : List Task} {progress : Progress} :
      Step rules input (.working (.finish name :: rest) progress) []
        (.working rest (progress.endLine.remark .finish name))
  | source {dir : Location} {line : String} {rest : List Task} {progress : Progress}
      (htarget : rules.target? dir line = none) :
      Step rules input (.working (.line dir line :: rest) progress) []
        (.working rest (progress.copySource line))
  | pass {dir loc : Location} {line name : String} {rest : List Task} {progress : Progress}
      (htarget : rules.target? dir line = some (name, loc))
      (hpass : loc ∈ rules.excluded ∨ loc ∈ progress.opened) :
      Step rules input (.working (.line dir line :: rest) progress) []
        (.working rest (passOver rules progress line name loc))

inductive Run (rules : Rules) (input : Path) : List Location → Phase → Prop
  | nil : Run rules input [] .starting
  | snoc {log entered : List Location} {phase next : Phase}
      (run : Run rules input log phase) (step : Step rules input phase entered next) :
      Run rules input (log ++ entered) next

/-! ## What the moves compute -/

/-- What combining answers if it goes on from a phase. -/
def Phase.answer (rules : Rules) (input : Path) : Phase → Except Failure Progress
  | .starting => combine rules input
  | .working tasks progress => inline rules tasks progress
  | .failed _ failure => .error failure

variable {rules : Rules} {input : Path} {phase next : Phase} {log entered : List Location}

theorem Phase.answer_of_outcome?
    {answer : Except Failure Progress} (h : phase.outcome? = some answer) :
    phase.answer rules input = answer := by
  cases phase with
  | starting => cases h
  | working tasks progress =>
      cases tasks with
      | nil =>
          cases h
          exact inline_nil rules progress
      | cons task rest => cases h
  | failed depth failure =>
      cases h
      rfl

theorem Phase.eq_working_of_outcome?
    {progress : Progress} (h : phase.outcome? = some (.ok progress)) :
    phase = .working [] progress := by
  cases phase with
  | starting => cases h
  | working tasks progress =>
      cases tasks with
      | nil =>
          cases h
          rfl
      | cons task rest => cases h
  | failed depth failure => cases h

theorem Entrance.answer_eq
    {loc : Location} {rest : List Task} {progress : Progress}
    (h : Entrance rules input phase loc rest progress) :
    phase.answer rules input =
      (readLines rules.files loc).bind fun lines =>
        inline rules (fileTasks loc lines ++ rest) progress := by
  cases h with
  | input hlocate =>
      simp only [List.append_nil]
      exact combine_of_locate hlocate
  | inclusion htarget hexcluded hnew => exact inline_open htarget hexcluded hnew _

/-- No move changes what combining answers in the end. -/
theorem Step.answer_eq (step : Step rules input phase entered next) :
    phase.answer rules input = next.answer rules input := by
  cases step with
  | lost hlocate => exact combine_of_locate_error hlocate
  | enter entrance hread =>
      rw [entrance.answer_eq, hread]
      rfl
  | unreadable entrance hread =>
      rw [entrance.answer_eq, hread]
      rfl
  | finish => exact inline_finish rules _ _ _
  | source htarget => exact inline_source htarget _ _
  | pass htarget hpass => exact inline_pass htarget hpass _

theorem Run.answer_eq (run : Run rules input log phase) :
    phase.answer rules input = combine rules input := by
  induction run with
  | nil => rfl
  | snoc run step ih => rw [← step.answer_eq, ih]

theorem Run.combine_eq
    {answer : Except Failure Progress} (run : Run rules input log phase)
    (houtcome : phase.outcome? = some answer) : combine rules input = answer := by
  rw [← run.answer_eq]
  exact Phase.answer_of_outcome? houtcome

theorem Entrance.exists_step
    {loc : Location} {rest : List Task} {progress : Progress}
    (h : Entrance rules input phase loc rest progress) :
    ∃ entered next, Step rules input phase entered next := by
  cases hread : readLines rules.files loc with
  | error failure => exact ⟨_, _, .unreadable h hread⟩
  | ok lines => exact ⟨_, _, .enter h hread⟩

/-- As long as nothing is answered, there is a move. -/
theorem exists_step_of_outcome?_eq_none (h : phase.outcome? = none) :
    ∃ entered next, Step rules input phase entered next := by
  cases phase with
  | starting =>
      cases hlocate : rules.files.locate rules.here input with
      | error e => exact ⟨_, _, .lost hlocate⟩
      | ok start => exact Entrance.exists_step (.input hlocate)
  | failed depth failure => cases h
  | working tasks progress =>
      cases tasks with
      | nil => cases h
      | cons task rest =>
          cases task with
          | finish name => exact ⟨_, _, .finish⟩
          | line dir line =>
              cases htarget : rules.target? dir line with
              | none => exact ⟨_, _, .source htarget⟩
              | some found =>
                  obtain ⟨name, loc⟩ := found
                  by_cases hpass : loc ∈ rules.excluded ∨ loc ∈ progress.opened
                  · exact ⟨_, _, .pass htarget hpass⟩
                  · obtain ⟨hexcluded, hnew⟩ := not_or.mp hpass
                    exact Entrance.exists_step (.inclusion htarget hexcluded hnew)

/-! ## Moves do not go on for ever -/

/-- What every move makes smaller: the stage of the work, then the number of files that are not
opened, then the number of tasks. -/
def Phase.remaining (rules : Rules) : Phase → ℕ ×ₗ ℕ ×ₗ ℕ
  | .starting => toLex (2, toLex (0, 0))
  | .working tasks progress => toLex (1, toLex (unopened rules.files progress.opened, tasks.length))
  | .failed .. => toLex (0, toLex (0, 0))

theorem remaining_lt_of_opened_eq
    {task : Task} {tasks : List Task} {progress later : Progress}
    (h : later.opened = progress.opened) :
    (Phase.working tasks later).remaining rules <
      (Phase.working (task :: tasks) progress).remaining rules := by
  simp [Phase.remaining, Prod.Lex.toLex_lt_toLex, h]

theorem Step.remaining_lt (step : Step rules input phase entered next) :
    next.remaining rules < phase.remaining rules := by
  cases step with
  | lost hlocate => simp [Phase.remaining, Prod.Lex.toLex_lt_toLex]
  | enter entrance hread =>
      cases entrance with
      | input hlocate => simp [Phase.remaining, Prod.Lex.toLex_lt_toLex]
      | inclusion htarget hexcluded hnew =>
          have hfile := Scope.mem_fileLocations_of_resolve (target?_eq_some_iff.mp htarget).2
          have hfewer := unopened_cons_lt hfile hnew
          simp [Phase.remaining, Prod.Lex.toLex_lt_toLex, hfewer]
  | unreadable entrance hread =>
      cases entrance <;> simp [Phase.remaining, Prod.Lex.toLex_lt_toLex]
  | finish => exact remaining_lt_of_opened_eq (by simp)
  | source htarget => exact remaining_lt_of_opened_eq (by simp)
  | pass htarget hpass => exact remaining_lt_of_opened_eq (by simp)

theorem wellFounded_step (rules : Rules) (input : Path) :
    WellFounded fun next phase => ∃ entered, Step rules input phase entered next :=
  Subrelation.wf (fun ⟨_, step⟩ => step.remaining_lt)
    (InvImage.wf (Phase.remaining rules) wellFounded_lt)

theorem Run.exists_outcome (run : Run rules input log phase) :
    ∃ log' last answer, Run rules input log' last ∧ last.outcome? = some answer := by
  induction phase using (wellFounded_step rules input).induction generalizing log with
  | h phase ih =>
      cases houtcome : phase.outcome? with
      | some answer => exact ⟨log, phase, answer, run, houtcome⟩
      | none =>
          obtain ⟨entered, next, step⟩ := exists_step_of_outcome?_eq_none houtcome
          exact ih next ⟨entered, step⟩ (run.snoc step)

/-! ## No file is entered twice -/

/-- The progress of the work has opened the files of the log, and the work has begun if there are
any. -/
def Phase.Opened (log : List Location) : Phase → Prop
  | .starting => log = []
  | .working _ progress => progress.opened = log.reverse
  | .failed .. => True

/-- What every run preserves. -/
structure Orderly (scope : Scope) (input : Path) (log : List Location) (phase : Phase) : Prop where
  nodup : log.Nodup
  candidates : ∀ loc ∈ log, loc ∈ scope.candidates input
  opened : phase.Opened log
  depth_le : phase.depth ≤ log.length

/-- A file that is to be entered has not been entered before. -/
theorem Orderly.entrance
    {loc : Location} {rest : List Task} {progress : Progress}
    (h : Orderly rules.toScope input log phase)
    (entrance : Entrance rules input phase loc rest progress) :
    (log ++ [loc]).Nodup ∧ (∀ other ∈ log ++ [loc], other ∈ rules.toScope.candidates input) ∧
      progress.opened = (log ++ [loc]).reverse ∧ nesting rest ≤ (log ++ [loc]).length := by
  have hopened := h.opened
  have hdepth := h.depth_le
  cases entrance with
  | input hlocate =>
      obtain rfl : log = [] := hopened
      refine ⟨List.nodup_singleton _, ?_, rfl, Nat.le_refl 1⟩
      intro other hother
      obtain rfl := List.mem_singleton.mp hother
      exact mem_candidates_of_locate hlocate
  | @inclusion dir _ line name rest progress htarget hexcluded hnew =>
      have hlog : progress.opened = log.reverse := hopened
      have hloc : loc ∉ log := by
        rw [hlog] at hnew
        exact fun hmem => hnew (List.mem_reverse.mpr hmem)
      refine ⟨?_, ?_, ?_, ?_⟩
      · rw [List.nodup_append]
        refine ⟨h.nodup, List.nodup_singleton loc, ?_⟩
        rintro other hother _ hlast rfl
        exact hloc (List.mem_singleton.mp hlast ▸ hother)
      · intro other hother
        rcases List.mem_append.mp hother with hother | hother
        · exact h.candidates other hother
        · obtain rfl := List.mem_singleton.mp hother
          exact mem_candidates_of_resolve (target?_eq_some_iff.mp htarget).2 input
      · rw [Progress.opened_enter, hlog, List.reverse_append]
        rfl
      · rw [Phase.depth, nesting_line] at hdepth
        rw [nesting_finish, List.length_append, List.length_singleton]
        exact Nat.succ_le_succ hdepth

/-- A move that enters no file keeps a run orderly, if it opens none and no further file is being
inlined after it. -/
theorem Orderly.quiet
    (h : Orderly rules.toScope input log phase)
    (hopened : next.Opened log) (hdepth : next.depth ≤ phase.depth) :
    Orderly rules.toScope input (log ++ []) next := by
  rw [List.append_nil]
  exact ⟨h.nodup, h.candidates, hopened, hdepth.trans h.depth_le⟩

theorem Step.orderly
    (step : Step rules input phase entered next) (h : Orderly rules.toScope input log phase) :
    Orderly rules.toScope input (log ++ entered) next := by
  cases step with
  | lost hlocate => exact h.quiet trivial (Nat.le_refl 0)
  | enter entrance hread =>
      obtain ⟨hnodup, hcandidates, hopened, hdepth⟩ := h.entrance entrance
      refine ⟨hnodup, hcandidates, hopened, ?_⟩
      rw [Phase.depth, nesting_fileTasks_append]
      exact hdepth
  | unreadable entrance hread =>
      obtain ⟨hnodup, hcandidates, -, hdepth⟩ := h.entrance entrance
      exact ⟨hnodup, hcandidates, trivial, hdepth⟩
  | @finish name rest progress =>
      have hopened : progress.opened = log.reverse := h.opened
      exact h.quiet (by simpa [Phase.Opened] using hopened) (by simp [Phase.depth])
  | @source dir line rest progress htarget =>
      have hopened : progress.opened = log.reverse := h.opened
      exact h.quiet (by simpa [Phase.Opened] using hopened) (by simp [Phase.depth])
  | @pass dir loc line name rest progress htarget hpass =>
      have hopened : progress.opened = log.reverse := h.opened
      exact h.quiet (by simpa [Phase.Opened] using hopened) (by simp [Phase.depth])

theorem Run.orderly (run : Run rules input log phase) :
    Orderly rules.toScope input log phase := by
  induction run with
  | nil => exact ⟨List.nodup_nil, nofun, rfl, Nat.le_refl 0⟩
  | snoc run step ih => exact step.orderly ih

theorem Orderly.length_le
    {scope : Scope} (h : Orderly scope input log phase) :
    log.length ≤ (scope.candidates input).card := by
  rw [← List.toFinset_card_of_nodup h.nodup]
  apply Finset.card_le_card
  intro loc hloc
  exact h.candidates loc (List.mem_toFinset.mp hloc)

theorem Run.opened_eq
    (run : Run rules input log phase) {progress : Progress}
    (houtcome : phase.outcome? = some (.ok progress)) : progress.opened = log.reverse := by
  have hopened := run.orderly.opened
  rw [Phase.eq_working_of_outcome? houtcome] at hopened
  exact hopened

/-- Combining comes to its end on every file system: its moves do not go on for ever, and some of
them lead to the answer of `combine`, where the files of the log are those that were opened.  However
far the moves have come, what is left to do gives that answer, and no file has been entered twice, so
that neither the number of files that were entered nor the nesting of files exceeds the number of
candidates. -/
theorem combining_enters_no_file_twice
    (scope : Scope) (excludes : List Path) (keepExcluded : Bool) (input : Path) :
    (¬∃ phases : ℕ → Phase, ∀ n, ∃ entered,
      Step (.make scope excludes keepExcluded) input (phases n) entered (phases (n + 1))) ∧
    (∃ log last, Run (.make scope excludes keepExcluded) input log last ∧
      last.outcome? = some (combine (.make scope excludes keepExcluded) input) ∧
      ∀ progress, combine (.make scope excludes keepExcluded) input = .ok progress →
        progress.opened = log.reverse) ∧
    ∀ log phase, Run (.make scope excludes keepExcluded) input log phase →
      phase.answer (.make scope excludes keepExcluded) input =
          combine (.make scope excludes keepExcluded) input ∧
        log.Nodup ∧ (∀ loc ∈ log, loc ∈ scope.candidates input) ∧
        log.length ≤ (scope.candidates input).card ∧
        phase.depth ≤ (scope.candidates input).card := by
  refine ⟨?_, ?_, ?_⟩
  · rintro ⟨phases, hphases⟩
    obtain ⟨n, hn⟩ := @WellFounded.not_rel_apply_succ _ _
      ⟨wellFounded_step (.make scope excludes keepExcluded) input⟩ phases
    exact hn (hphases n)
  · obtain ⟨log, last, answer, run, houtcome⟩ :=
      Run.exists_outcome (Run.nil : Run (.make scope excludes keepExcluded) input [] .starting)
    rw [run.combine_eq houtcome]
    refine ⟨log, last, run, houtcome, ?_⟩
    rintro progress rfl
    exact run.opened_eq houtcome
  · intro log phase run
    have horderly := run.orderly
    have hlength := horderly.length_le
    exact ⟨run.answer_eq, horderly.nodup, horderly.candidates, hlength,
      horderly.depth_le.trans hlength⟩

/-! ### Cycles in disguise -/

/-- A file that includes itself by a detour, and once more over a second file and a link. -/
def cyclicScope : Scope :=
  { files := ⟨[
      (⟨["src"]⟩, .directory),
      (⟨["src", "a.c"]⟩, .file "#include \"b.h\"\n#include \"../src/a.c\"\n".toUTF8 false),
      (⟨["src", "b.h"]⟩, .file "#include \"c.h\"\n".toUTF8 false),
      (⟨["src", "c.h"]⟩, .link ⟨"a.c"⟩)]⟩
    here := .root
    roots := [] }

/-- The moves end with the answer, after the two files have been entered at most once each. -/
theorem cyclic_files_are_entered_once :
    ∃ log last, Run (.make cyclicScope [] false) ⟨"src/a.c"⟩ log last ∧
      last.outcome? = some (combine (.make cyclicScope [] false) ⟨"src/a.c"⟩) ∧
      log.Nodup ∧ log.length ≤ 2 ∧ last.depth ≤ 2 := by
  have hcard : (cyclicScope.candidates ⟨"src/a.c"⟩).card = 2 := by decide +kernel
  obtain ⟨-, ⟨log, last, run, houtcome, -⟩, hbounds⟩ :=
    combining_enters_no_file_twice cyclicScope [] false ⟨"src/a.c"⟩
  obtain ⟨-, hnodup, -, hlength, hdepth⟩ := hbounds log last run
  rw [hcard] at hlength hdepth
  exact ⟨log, last, run, houtcome, hnodup, hlength, hdepth⟩

end Combine

end CrossGen
