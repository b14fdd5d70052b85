import CrossGen.Proofs.Generation.Processes

/-!
# Which process failed

The processes of a run and its outcome tell about each other.  Each kind of failure that blames a
tool belongs to one job, or to one way in which a job may fail, so that the outcome is of that kind
exactly if that is what happened.
-/

namespace CrossGen

theorem Failure.isTransient_iff {failure : Failure} :
    failure.isTransient = true ↔ ∃ e, failure = .fetch e := by
  cases failure <;> simp [isTransient]

namespace Generation

variable (configuration : Configuration) (matrix : Matrix) (tried : List Attempt)

def TriedFor (job : Job) (a : Attempt) : Prop :=
  (job, a) ∈ (jobs configuration matrix).zip tried

def Fails (job : Job) : Prop :=
  ∃ a, TriedFor configuration matrix tried job a ∧ ¬a.Succeeded

/-- The processes that were tried are the first ones of the run, each after the success of all
before it, and from the outcome one can tell which of them failed, and how. -/
structure TellsWhichFailed (checkout : Checkout) (outcome : Option Failure) : Prop where
  order :
    tried.map Attempt.command <+:
      (jobs configuration matrix).map (Job.command configuration checkout)
  seen : ∀ job a, TriedFor configuration matrix tried job a → job.SeenIn configuration a.command
  chained : ∀ before a later, tried = before ++ a :: later → ∀ b ∈ before, b.Succeeded
  complete : outcome = none →
    tried.map Attempt.command =
      (jobs configuration matrix).map (Job.command configuration checkout) ∧
    ∀ a ∈ tried, a.Succeeded
  clone : (∃ e, outcome = some (.fetch e)) ↔ Fails configuration matrix tried .clone
  drift : (∃ path, outcome = some (.patchDrift path)) ↔
    ∃ a ending, TriedFor configuration matrix tried .tryPatch a ∧ a.result = .ok ending ∧
      ending ≠ .exited 0
  patch : (∃ e, outcome = some (.patch e)) ↔
    (∃ a cause, TriedFor configuration matrix tried .tryPatch a ∧ a.result = .error cause) ∨
      Fails configuration matrix tried .applyPatch
  script : (∃ e, outcome = some (.combineTool e)) ↔ Fails configuration matrix tried .script
  transpile : ∀ key, (∃ e, outcome = some (.transpile key (.tool e))) ↔
    ∃ entry, entry.target.key = key ∧ Fails configuration matrix tried (.transpile entry)
  transient : (∃ failure, outcome = some failure ∧ failure.isTransient = true) ↔
    Fails configuration matrix tried .clone
  checked : ∀ a, TriedFor configuration matrix tried .applyPatch a →
    ∃ b, TriedFor configuration matrix tried .tryPatch b ∧ b.Succeeded

variable {configuration matrix tried}

/-! ## Kinds of failures -/

section Kinds

variable {checkout : Checkout} {outcome : Option Failure}

/-- If only attempts of some sort are blamed by failures of a kind, and by no others, then the
outcome is of that kind exactly if there was such an attempt. -/
theorem Account.exists_outcome_iff
    {ι : Type} (h : Account configuration checkout (jobs configuration matrix) tried outcome)
    (report : ι → Failure) (sort : Job → Attempt → Prop)
    (htools : ∀ i, (report i).BlamesTool) (hfailed : ∀ job a, sort job a → ¬a.Succeeded)
    (hsort : ∀ job a failure, Blames configuration job a failure →
      ((∃ i, failure = report i) ↔ sort job a)) :
    (∃ i, outcome = some (report i)) ↔
      ∃ job a, TriedFor configuration matrix tried job a ∧ sort job a := by
  constructor
  · rintro ⟨i, rfl⟩
    obtain ⟨job, a, hmem, hblames⟩ := h.exists_culprit (htools i)
    exact ⟨job, a, hmem, (hsort job a _ hblames).mp ⟨i, rfl⟩⟩
  · rintro ⟨job, a, hmem, ha⟩
    obtain ⟨failure, rfl, hblames⟩ := h.exists_blames hmem (hfailed job a ha)
    obtain ⟨i, rfl⟩ := (hsort job a failure hblames).mpr ha
    exact ⟨i, rfl⟩

/-- The case of failures that are reported for one job only, in whatever way it fails. -/
theorem Account.exists_outcome_iff_fails
    {ι : Type} (h : Account configuration checkout (jobs configuration matrix) tried outcome)
    (report : ι → Failure) (job : Job)
    (htools : ∀ i, (report i).BlamesTool)
    (hsort : ∀ other a failure, Blames configuration other a failure →
      ((∃ i, failure = report i) ↔ other = job)) :
    (∃ i, outcome = some (report i)) ↔ Fails configuration matrix tried job := by
  have hiff := h.exists_outcome_iff report (fun other a => other = job ∧ ¬a.Succeeded) htools
    (fun _ _ => And.right) ?_
  · rw [hiff]
    constructor
    · rintro ⟨other, a, htried, rfl, hfailed⟩
      exact ⟨a, htried, hfailed⟩
    · rintro ⟨a, htried, hfailed⟩
      exact ⟨job, a, htried, rfl, hfailed⟩
  · intro other a failure hblames
    rw [hsort other a failure hblames]
    exact (and_iff_left hblames.not_succeeded).symm

theorem Account.clone_iff
    (h : Account configuration checkout (jobs configuration matrix) tried outcome) :
    (∃ e, outcome = some (.fetch e)) ↔ Fails configuration matrix tried .clone := by
  refine h.exists_outcome_iff_fails Failure.fetch .clone (fun _ => trivial) ?_
  intro job a failure hblames
  cases hblames with
  | clone => exact iff_of_true ⟨_, rfl⟩ rfl
  | notTried | drift | applyPatch | script | transpile => exact iff_of_false nofun nofun

/-- A dry run that ended in any other way than with the status 0 is reported as drift. -/
theorem Account.drift_iff
    (h : Account configuration checkout (jobs configuration matrix) tried outcome) :
    (∃ path, outcome = some (.patchDrift path)) ↔
      ∃ a ending, TriedFor configuration matrix tried .tryPatch a ∧ a.result = .ok ending ∧
        ending ≠ .exited 0 := by
  have hiff := h.exists_outcome_iff Failure.patchDrift
    (fun job a => job = .tryPatch ∧ ∃ ending, a.result = .ok ending ∧ ending ≠ .exited 0)
    (fun _ => trivial) ?_ ?_
  · rw [hiff]
    constructor
    · rintro ⟨job, a, htried, rfl, ending, hresult, hending⟩
      exact ⟨a, ending, htried, hresult, hending⟩
    · rintro ⟨a, ending, htried, hresult, hending⟩
      exact ⟨.tryPatch, a, htried, rfl, ending, hresult, hending⟩
  · rintro job a ⟨-, ending, hresult, hending⟩ hsucceeded
    exact hending (Except.ok.inj (hresult.symm.trans hsucceeded))
  · intro job a failure hblames
    cases hblames with
    | drift hending => exact iff_of_true ⟨_, rfl⟩ ⟨rfl, _, rfl, hending⟩
    | notTried => exact iff_of_false nofun (by simp)
    | clone | applyPatch | script | transpile => exact iff_of_false nofun nofun

/-- That the patch could not be applied is reported of a dry run that could not be started, and of
the application itself. -/
theorem Account.patch_iff
    (h : Account configuration checkout (jobs configuration matrix) tried outcome) :
    (∃ e, outcome = some (.patch e)) ↔
      (∃ a cause, TriedFor configuration matrix tried .tryPatch a ∧ a.result = .error cause) ∨
        Fails configuration matrix tried .applyPatch := by
  have hiff := h.exists_outcome_iff Failure.patch
    (fun job a => (job = .tryPatch ∧ ∃ cause, a.result = .error cause) ∨
      (job = .applyPatch ∧ ¬a.Succeeded))
    (fun _ => trivial) ?_ ?_
  · rw [hiff]
    constructor
    · rintro ⟨job, a, htried, ⟨rfl, cause, hresult⟩ | ⟨rfl, hfailed⟩⟩
      · exact .inl ⟨a, cause, htried, hresult⟩
      · exact .inr ⟨a, htried, hfailed⟩
    · rintro (⟨a, cause, htried, hresult⟩ | ⟨a, htried, hfailed⟩)
      · exact ⟨.tryPatch, a, htried, .inl ⟨rfl, cause, hresult⟩⟩
      · exact ⟨.applyPatch, a, htried, .inr ⟨rfl, hfailed⟩⟩
  · rintro job a (⟨-, cause, hresult⟩ | ⟨-, hfailed⟩)
    · intro hsucceeded
      cases hresult.symm.trans hsucceeded
    · exact hfailed
  · intro job a failure hblames
    have hfailed := hblames.not_succeeded
    cases hblames with
    | notTried => exact iff_of_true ⟨_, rfl⟩ (.inl ⟨rfl, _, rfl⟩)
    | applyPatch => exact iff_of_true ⟨_, rfl⟩ (.inr ⟨rfl, hfailed⟩)
    | drift => exact iff_of_false nofun (by simp)
    | clone | script | transpile => exact iff_of_false nofun (by simp)

/-- Targets of one key are not told apart. -/
theorem Account.transpile_iff
    (h : Account configuration checkout (jobs configuration matrix) tried outcome) (key : String) :
    (∃ e, outcome = some (.transpile key (.tool e))) ↔
      ∃ entry, entry.target.key = key ∧ Fails configuration matrix tried (.transpile entry) := by
  have hiff := h.exists_outcome_iff (fun e => Failure.transpile key (.tool e))
    (fun job a => ∃ entry : Entry, job = .transpile entry ∧ entry.target.key = key ∧ ¬a.Succeeded)
    (fun _ => trivial) ?_ ?_
  · rw [hiff]
    constructor
    · rintro ⟨job, a, htried, entry, rfl, hkey, hfailed⟩
      exact ⟨entry, hkey, a, htried, hfailed⟩
    · rintro ⟨entry, hkey, a, htried, hfailed⟩
      exact ⟨.transpile entry, a, htried, entry, rfl, hkey, hfailed⟩
  · rintro job a ⟨entry, -, -, hfailed⟩
    exact hfailed
  · intro job a failure hblames
    have hfailed := hblames.not_succeeded
    cases hblames with
    | @transpile _ e entry =>
        constructor
        · rintro ⟨i, hi⟩
          obtain ⟨hkey, -⟩ := Failure.transpile.inj hi
          exact ⟨entry, rfl, hkey, hfailed⟩
        · rintro ⟨other, hother, rfl, -⟩
          obtain rfl := Job.transpile.inj hother
          exact ⟨e, rfl⟩
    | clone | notTried | drift | applyPatch | script => exact iff_of_false nofun nofun

theorem Account.checked
    (h : Account configuration checkout (jobs configuration matrix) tried outcome) {a : Attempt}
    (ha : TriedFor configuration matrix tried .applyPatch a) :
    ∃ b, TriedFor configuration matrix tried .tryPatch b ∧ b.Succeeded := by
  have hlist : jobs configuration matrix = .clone :: .tryPatch :: .applyPatch ::
      (combiningJobs configuration.combiner ++ matrix.entries.map Job.transpile) := rfl
  unfold TriedFor at ha ⊢
  rw [hlist] at ha ⊢
  match tried, h with
  | [], _ => cases ha
  | [_], _ => simp at ha
  | [_, _], _ => simp at ha
  | first :: second :: third :: others, h =>
      have hsecond := h.succeeded_of_append (by rfl : _ = [first, second] ++ third :: others) second
        (by simp)
      exact ⟨second, by simp, hsecond⟩

theorem Account.tellsWhichFailed
    (h : Account configuration checkout (jobs configuration matrix) tried outcome) :
    TellsWhichFailed configuration matrix tried checkout outcome where
  order := h.commands_prefix
  seen := by
    intro job a htried
    rw [h.command_eq htried]
    exact job.seenIn_command
  chained := fun before a later htried => h.succeeded_of_append htried
  complete := by
    rintro rfl
    exact h.commands_eq
  clone := h.clone_iff
  drift := h.drift_iff
  patch := h.patch_iff
  script := by
    refine h.exists_outcome_iff_fails Failure.combineTool .script (fun _ => trivial) ?_
    intro job a failure hblames
    cases hblames with
    | script => exact iff_of_true ⟨_, rfl⟩ rfl
    | clone | notTried | drift | applyPatch | transpile => exact iff_of_false nofun nofun
  transpile := h.transpile_iff
  transient := by
    rw [← h.clone_iff]
    constructor
    · rintro ⟨failure, houtcome, htransient⟩
      obtain ⟨e, rfl⟩ := Failure.isTransient_iff.mp htransient
      exact ⟨e, houtcome⟩
    · rintro ⟨e, houtcome⟩
      exact ⟨_, houtcome, rfl⟩
  checked := fun a ha => h.checked ha

end Kinds

/-! ## The outcome of a run -/

/-- However a run with the real tools ends, its outcome tells which of its processes failed. -/
theorem outcome_tells_which_process_failed
    {start t : Run} {outcome : Option Failure} (hsinks : start.host.sinks.Working)
    (h : Ends (.tools configuration) configuration matrix start outcome t) :
    ∃ checkout tried, t.host.attempts = start.host.attempts ++ tried ∧
      TellsWhichFailed configuration matrix tried checkout outcome := by
  obtain ⟨checkout, tried, htries, haccount⟩ := h.goes.undergoes hsinks
  exact ⟨checkout, tried, htries.attempts, haccount.tellsWhichFailed⟩

/-! ### A transpiler that is killed -/

/-- All that a run needs to find: a patch, combined sources, and the first of its outputs. -/
def furnished : FileSystem :=
  ⟨[(⟨["tmp"]⟩, .directory), (⟨["tmp", "zstd-build-000000"]⟩, .directory),
    (⟨["tmp", "zstd-build-000000", "zstd"]⟩, .directory),
    (⟨["tmp", "zstd-build-000000", "zstd", "build"]⟩, .directory),
    (⟨["tmp", "zstd-build-000000", "zstd", "build", "single_file_libs"]⟩, .directory),
    (⟨["tmp", "zstd-build-000000", "zstd.c"]⟩, .file "int a;".toUTF8 false),
    (⟨["fix.patch"]⟩, .file "patch".toUTF8 false), (⟨["gen"]⟩, .directory),
    (⟨["gen", "zstd_linux_amd64.go"]⟩, .file "package libzstd".toUTF8 false)]⟩

/-- Every process leaves the same files, and the sixth one is killed. -/
def sixthKilled : Machine := fun launch =>
  .ok ⟨if launch.number = 5 then .killed else .exited 0, [], furnished, fun _ => furnished, 1⟩

def killingHost : Host :=
  .fresh ⟨[(⟨["tmp"]⟩, .directory), (⟨["fix.patch"]⟩, .file "patch".toUTF8 false)]⟩ .root .empty
    sixthKilled

def scriptedConfiguration : Configuration :=
  { plainConfiguration with combiner := .script }

def twoArchitectures : Matrix :=
  ⟨.matrix, [linuxEntry, ⟨⟨.linux, "arm64"⟩, some "clang"⟩]⟩

/-- The transpiler of the second target is blamed after five processes that succeeded. -/
theorem killed_transpiler_is_blamed :
    ∃ checkout t,
      Ends (.tools scriptedConfiguration) scriptedConfiguration twoArchitectures ⟨killingHost, []⟩
        (some (.transpile "linux_arm64" (.tool (.failed "ccgo" none)))) t ∧
      t.host.attempts.length = 6 ∧
      TellsWhichFailed scriptedConfiguration twoArchitectures t.host.attempts checkout
        (some (.transpile "linux_arm64" (.tool (.failed "ccgo" none)))) := by
  have hends := ends_outcome? (.tools scriptedConfiguration) scriptedConfiguration twoArchitectures
    ⟨killingHost, []⟩
  have houtcome : outcome? (.tools scriptedConfiguration) scriptedConfiguration twoArchitectures
      ⟨killingHost, []⟩ = some (.transpile "linux_arm64" (.tool (.failed "ccgo" none))) := by
    decide +kernel
  rw [houtcome] at hends
  obtain ⟨checkout, tried, hattempts, htells⟩ :=
    outcome_tells_which_process_failed Sinks.working_accepting hends
  rw [show tried = _ from hattempts.symm] at htells
  exact ⟨checkout, _, hends, by decide +kernel, htells⟩

end Generation

end CrossGen
