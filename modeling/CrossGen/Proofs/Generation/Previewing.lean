import CrossGen.Preview
import CrossGen.Proofs.Generation.Ending

/-!
# A preview shows the calls of every run

A preview is refused exactly if the shape of the matrix does not support one of its targets, with
the error of the first such target.  Otherwise it shows, for each entry in order, how the transpiler
is called in every run that gets as far as this entry, but for the input:  only a run knows where
the combined source is.
-/

namespace CrossGen

namespace Generation

variable {stages : Stages} {configuration : Configuration} {matrix : Matrix} {shape : Shape}

/-! ## What is shown of an entry -/

/-- The options of an entry before its input and its output. -/
def commonOptions (configuration : Configuration) (entry : Entry) : List String :=
  ((Tolerance.needed entry.target.system).map Tolerance.option).foldl Invocation.addOption
    ["--package-name", configuration.settings.packageName, configuration.settings.standard]

/-- An option is left out only if it was given before, and the input is given after all of them.  So
it has no part in which of them are given. -/
theorem args_optionsOf (configuration : Configuration) (combined : Path) (entry : Entry) :
    (optionsOf configuration combined entry).args =
      commonOptions configuration entry ++
        [combined.text, "-o", (outputOf configuration entry).text] :=
  rfl

def itemOf (configuration : Configuration) (entry : Entry) : PreviewItem :=
  ⟨entry.target, entry.compiler, outputOf configuration entry,
    (optionsOf configuration (Preview.input configuration) entry).args⟩

theorem ofEntry_of_supported
    {entry : Entry} (h : shape.supports entry.target.system = true) :
    PreviewItem.ofEntry configuration shape (Preview.input configuration) entry =
      .ok (itemOf configuration entry) := by
  have hoptions : invocationFor configuration shape (Preview.input configuration) entry =
      .ok (optionsOf configuration (Preview.input configuration) entry) :=
    invocationFor_of_supported h
  rw [invocationFor] at hoptions
  rw [PreviewItem.ofEntry, hoptions]
  rfl

theorem ofEntry_of_unsupported
    {entry : Entry} (h : shape.supports entry.target.system = false) (input : Path) :
    PreviewItem.ofEntry configuration shape input entry =
      .error (.unsupported entry.target.key shape.name) := by
  have hoptions : invocationFor configuration shape input entry =
      .error (.unsupported entry.target.key shape.name) :=
    invocationFor_of_unsupported h
  rw [invocationFor] at hoptions
  rw [PreviewItem.ofEntry, hoptions]

/-! ## What is shown of all entries -/

/-- The error is that of the first entry whose target the shape does not support. -/
inductive FirstUnsupported (shape : Shape) (entries : List Entry) : TargetError → Prop
  | intro {before later : List Entry} {entry : Entry}
      (split : entries = before ++ entry :: later)
      (before : ∀ other ∈ before, shape.supports other.target.system = true)
      (unsupported : shape.supports entry.target.system = false) :
      FirstUnsupported shape entries (.unsupported entry.target.key shape.name)

theorem FirstUnsupported.cons
    {head : Entry} {rest : List Entry} {e : TargetError}
    (hhead : shape.supports head.target.system = true) (h : FirstUnsupported shape rest e) :
    FirstUnsupported shape (head :: rest) e := by
  cases h with
  | intro split before unsupported =>
      rw [split, ← List.cons_append]
      exact .intro rfl (List.forall_mem_cons.mpr ⟨hhead, before⟩) unsupported

theorem supported_or_firstUnsupported (shape : Shape) (entries : List Entry) :
    (∀ entry ∈ entries, shape.supports entry.target.system = true) ∨
      ∃ e, FirstUnsupported shape entries e := by
  induction entries with
  | nil => exact .inl nofun
  | cons head rest ih =>
      cases hhead : shape.supports head.target.system with
      | false => exact .inr ⟨_, @FirstUnsupported.intro shape _ [] rest head rfl nofun hhead⟩
      | true =>
          rcases ih with hrest | ⟨e, hrest⟩
          · exact .inl (List.forall_mem_cons.mpr ⟨hhead, hrest⟩)
          · exact .inr ⟨e, hrest.cons hhead⟩

theorem make_of_supported
    (h : ∀ entry ∈ matrix.entries, matrix.shape.supports entry.target.system = true) :
    Preview.make configuration matrix =
      .ok ⟨matrix.shape, matrix.entries.map (itemOf configuration)⟩ := by
  have hitems : ∀ entries : List Entry,
      (∀ entry ∈ entries, matrix.shape.supports entry.target.system = true) →
      entries.mapM (PreviewItem.ofEntry configuration matrix.shape (Preview.input configuration)) =
        .ok (entries.map (itemOf configuration)) := by
    intro entries hentries
    induction entries with
    | nil => rfl
    | cons head rest ih =>
        obtain ⟨hhead, hrest⟩ := List.forall_mem_cons.mp hentries
        rw [List.mapM_cons, ofEntry_of_supported hhead, ih hrest]
        rfl
  rw [Preview.make, hitems matrix.entries h]

theorem FirstUnsupported.make_eq
    {e : TargetError} (h : FirstUnsupported matrix.shape matrix.entries e) :
    Preview.make configuration matrix = .error e := by
  cases h with
  | @intro before later entry split supported unsupported =>
      have hitems : (before ++ entry :: later).mapM
          (PreviewItem.ofEntry configuration matrix.shape (Preview.input configuration)) =
            .error (.unsupported entry.target.key matrix.shape.name) := by
        clear split
        induction before with
        | nil =>
            rw [List.nil_append, List.mapM_cons, ofEntry_of_unsupported unsupported]
            rfl
        | cons head before ih =>
            obtain ⟨hhead, hbefore⟩ := List.forall_mem_cons.mp supported
            rw [List.cons_append, List.mapM_cons, ofEntry_of_supported hhead, ih hbefore]
            rfl
      rw [Preview.make, split, hitems]

theorem make_eq_error_iff {e : TargetError} :
    Preview.make configuration matrix = .error e ↔
      FirstUnsupported matrix.shape matrix.entries e := by
  constructor
  · intro hmake
    rcases supported_or_firstUnsupported matrix.shape matrix.entries with hall | ⟨other, hfirst⟩
    · rw [make_of_supported hall] at hmake
      cases hmake
    · rw [hfirst.make_eq] at hmake
      cases hmake
      exact hfirst
  · intro hfirst
    exact hfirst.make_eq

theorem eq_of_make_eq_ok
    {preview : Preview} (h : Preview.make configuration matrix = .ok preview) :
    preview = ⟨matrix.shape, matrix.entries.map (itemOf configuration)⟩ := by
  rcases supported_or_firstUnsupported matrix.shape matrix.entries with hall | ⟨e, hfirst⟩
  · rw [make_of_supported hall] at h
    cases h
    rfl
  · rw [hfirst.make_eq] at h
    cases h

/-! ## What is called in a run -/

def Call.task? : Call → Option Task
  | transpile task => some task
  | fetch _ | patch .. | combine .. => none

def tasks (calls : List Call) : List Task :=
  calls.filterMap Call.task?

theorem tasks_planned (checkout : Checkout) (combined : Path) :
    tasks (planned configuration matrix checkout combined) =
      matrix.entries.map (taskOf configuration combined) := by
  have hprepared : tasks (preparation configuration checkout) = [] := rfl
  have htasks : tasks (matrix.entries.map (callOf configuration combined)) =
      matrix.entries.map (taskOf configuration combined) := by
    rw [tasks, List.filterMap_map, ← List.filterMap_eq_map]
    rfl
  rw [← htasks, ← List.nil_append (tasks (matrix.entries.map _)), ← hprepared]
  exact List.filterMap_append

variable (stages configuration) in
/-- The sources are combined into the file at `combined`, in a run that gets as far. -/
def CombinesInto (start : Run) (combined : Path) : Prop :=
  ∃ host checkout t, Host.makeDirectories configuration.output start.host = .ok () host ∧
    Prepares stages configuration ⟨host, start.calls⟩ checkout combined t

/-- Whatever becomes of a run, its tasks are the first ones of the entries, with the combined source
as their input, and all of them if it does not fail. -/
theorem Goes.exists_tasks
    {start t : Run} {outcome : Option Failure}
    (h : Goes stages configuration matrix start outcome t) :
    ∃ made, t.calls = start.calls ++ made ∧
      ((tasks made = [] ∧ outcome ≠ none) ∨
        ∃ combined, CombinesInto stages configuration start combined ∧
          tasks made <+: matrix.entries.map (taskOf configuration combined) ∧
          (outcome = none → tasks made = matrix.entries.map (taskOf configuration combined))) := by
  cases h with
  | empty hentries => exact ⟨[], (List.append_nil _).symm, .inl ⟨rfl, nofun⟩⟩
  | directory hentries hdirectory => exact ⟨[], (List.append_nil _).symm, .inl ⟨rfl, nofun⟩⟩
  | @returns host checkout combined files t hentries hdirectory hreturns =>
      have hcalls := hreturns.calls_eq.2
      cases hreturns with
      | intro prepared completed =>
          refine ⟨_, hcalls, .inr ⟨combined, ⟨host, checkout, _, hdirectory, prepared⟩, ?_, ?_⟩⟩
          · exact ⟨[], by rw [List.append_nil, tasks_planned]⟩
          · intro _
            exact tasks_planned checkout combined
  | @stops host failure t hentries hdirectory hstops =>
      cases hstops with
      | preparing failed =>
          obtain ⟨checkout, made, -, hmade, hcalls⟩ := failed.exists_handsOn
          -- What prepares the sources holds no call of the transpiler.
          refine ⟨made, hcalls, .inl ⟨?_, nofun⟩⟩
          exact List.prefix_nil.mp (hmade.filterMap Call.task?)
      | @entry checkout combined _ _ _ _ _ _ _ _ prepared entries completed failed =>
          obtain ⟨made, hmade, hcalls⟩ := failed.exists_planned prepared entries completed
          refine ⟨made, hcalls, .inr ⟨combined, ⟨host, checkout, _, hdirectory, prepared⟩, ?_, ?_⟩⟩
          · rw [← tasks_planned checkout combined]
            exact hmade.filterMap Call.task?
          · exact nofun

/-! ## Previews and runs -/

/-- A call of the transpiler is the one that an item shows, with another input. -/
structure Shows (item : PreviewItem) (shown input : Path) (task : Task) : Prop where
  target : task.target = item.target
  compiler : task.compiler = item.compiler
  args : ∃ options, item.args = options ++ [shown.text, "-o", item.output.text] ∧
    task.args = options ++ [input.text, "-o", item.output.text]

theorem shows_itemOf (configuration : Configuration) (combined : Path) (entry : Entry) :
    Shows (itemOf configuration entry) (Preview.input configuration) combined
      (taskOf configuration combined entry) where
  target := rfl
  compiler := rfl
  args := ⟨commonOptions configuration entry, args_optionsOf _ _ _, args_optionsOf _ _ _⟩

variable (configuration matrix)

/-- What a preview has to do with the runs on the same configuration and matrix. -/
structure PreviewAgrees : Prop where
  succeeds : (∃ preview, Preview.make configuration matrix = .ok preview) ↔
    ∀ entry ∈ matrix.entries, matrix.shape.supports entry.target.system = true
  fails : ∀ e, Preview.make configuration matrix = .error e ↔
    FirstUnsupported matrix.shape matrix.entries e
  entries : ∀ preview, Preview.make configuration matrix = .ok preview →
    preview.shape = matrix.shape ∧
    preview.items.map (fun item => (item.target, item.compiler)) =
      matrix.entries.map fun entry => (entry.target, entry.compiler)
  /-- In every run, whatever its stages do, the calls of the transpiler are those that are shown. -/
  calls : ∀ preview, Preview.make configuration matrix = .ok preview →
    ∀ stages (start : Run) outcome (t : Run), Ends stages configuration matrix start outcome t →
      ∃ made, t.calls = start.calls ++ made ∧
        (∀ (k : Nat) task, (tasks made)[k]? = some task →
          ∃ item combined, preview.items[k]? = some item ∧
            CombinesInto stages configuration start combined ∧
            Shows item (Preview.input configuration) combined task) ∧
        (outcome = none → (tasks made).length = preview.items.length)
  /-- The files of a report are the outputs that are shown. -/
  files : ∀ preview, Preview.make configuration matrix = .ok preview →
    ∀ stages start report t, run stages configuration matrix start = .ok report t →
      report.files.map (fun file => (file.target, file.compiler, file.path)) =
        preview.items.map fun item => (item.target, item.compiler, item.output)

/-- The tolerances that share an option are shown with one. -/
example : (itemOf plainConfiguration windowsEntry).args.count "-ignore-link-errors" = 1 := by
  decide

end Generation

end CrossGen
