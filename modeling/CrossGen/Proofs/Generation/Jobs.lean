import CrossGen.Proofs.Generation.Course
import CrossGen.Proofs.Host.Trying
import CrossGen.Proofs.Transpiler.Variables

/-!
# The jobs of a run

A run with the real tools has a list of jobs, each with a command of its own.  What is tried of them
is told by an account: the first jobs of the list, all with success, and perhaps one more without,
which is then blamed.  Accounts are put together like the lists that they are about.
-/

namespace CrossGen

def Failure.BlamesTool : Failure → Prop
  | .fetch _ | .patchDrift _ | .patch _ | .combineTool _ | .transpile _ (.tool _) => True
  | _ => False

namespace Generation

/-! ## What processes are started for -/

inductive Job where
  | clone
  | tryPatch
  | applyPatch
  | script
  | transpile (entry : Entry)

variable (configuration : Configuration) (checkout : Checkout)

def Job.command : Job → Command
  | clone => checkout.cloneCommand configuration.release
  | tryPatch => checkout.applyCommand configuration.patch true
  | applyPatch => checkout.applyCommand configuration.patch false
  | script => Combine.Script.default.command configuration.plan checkout
  | transpile entry =>
    (taskOf configuration (configuration.plan.outputPath checkout) entry).command
      configuration.settings.program

/-- What a command is seen to be for: by its program and the words that come first, and where the
transpiler is started, by the target that its variables name. -/
def Job.SeenIn : Job → Command → Prop
  | clone, command =>
    command.program = "git" ∧
      ["clone", "-b", configuration.release.revision, "--depth=1", "--single-branch",
        configuration.release.repository] <+: command.args
  | tryPatch, command =>
    command.program = "git" ∧ command.args = ["apply", "--check", configuration.patch.text]
  | applyPatch, command =>
    command.program = "git" ∧ command.args = ["apply", configuration.patch.text]
  | script, command => command.program = "python3" ∧ ["combine.py"] <+: command.args
  | transpile entry, command =>
    command.program = configuration.settings.program ∧
      command.overrides.lookup? "TARGET_GOOS" = some entry.target.system.name ∧
      command.overrides.lookup? "TARGET_GOARCH" = some entry.target.arch

/-- Only the script takes a process of its own to combine the sources. -/
def combiningJobs : Combine.Method → List Job
  | .script => [.script]
  | .native => []

/-- All jobs of a run, in order. -/
def jobs (matrix : Matrix) : List Job :=
  [.clone] ++ ([.tryPatch, .applyPatch] ++
    (combiningJobs configuration.combiner ++ matrix.entries.map Job.transpile))

/-- How it is reported that the process of a job failed. -/
inductive Blames : Job → Attempt → Failure → Prop
  | clone {a : Attempt} {e : ToolError} (h : a.FailedWith e) : Blames .clone a (.fetch e)
  | notTried {command : Command} {program : String} {cause : IoError} :
      Blames .tryPatch ⟨command, .error cause⟩ (.patch (.notStarted program cause))
  | drift {command : Command} {ending : Ending} (h : ending ≠ .exited 0) :
      Blames .tryPatch ⟨command, .ok ending⟩ (.patchDrift configuration.patch)
  | applyPatch {a : Attempt} {e : ToolError} (h : a.FailedWith e) :
      Blames .applyPatch a (.patch e)
  | script {a : Attempt} {e : ToolError} (h : a.FailedWith e) : Blames .script a (.combineTool e)
  | transpile {a : Attempt} {e : ToolError} {entry : Entry} (h : a.FailedWith e) :
      Blames (.transpile entry) a (.transpile entry.target.key (.tool e))

/-- What was tried for a list of jobs: all of them with success; or only the first ones with
success, before something else failed; or the first ones with success and the next one without. -/
inductive Account : List Job → List Attempt → Option Failure → Prop
  | complete {done : List Job} {tried : List Attempt}
      (commands : tried.map Attempt.command = done.map (Job.command configuration checkout))
      (succeeded : ∀ a ∈ tried, a.Succeeded) :
      Account done tried none
  | between {done rest : List Job} {tried : List Attempt} {failure : Failure}
      (commands : tried.map Attempt.command = done.map (Job.command configuration checkout))
      (succeeded : ∀ a ∈ tried, a.Succeeded) (h : ¬failure.BlamesTool) :
      Account (done ++ rest) tried (some failure)
  | culprit {done rest : List Job} {tried : List Attempt} {job : Job} {a : Attempt}
      {failure : Failure}
      (commands : tried.map Attempt.command = done.map (Job.command configuration checkout))
      (succeeded : ∀ a ∈ tried, a.Succeeded)
      (command : a.command = job.command configuration checkout)
      (blames : Blames configuration job a failure) :
      Account (done ++ job :: rest) (tried ++ [a]) (some failure)

/-- The jobs are undergone on the way from one host to another, with success or up to a failure. -/
def Undergoes (before after : Host) (jobs : List Job) (outcome : Option Failure) : Prop :=
  ∃ tried, before.Tries after tried ∧ Account configuration checkout jobs tried outcome

variable {configuration checkout}

theorem Job.seenIn_command (job : Job) :
    job.SeenIn configuration (job.command configuration checkout) := by
  cases job with
  | clone => exact ⟨rfl, List.prefix_append _ [Checkout.sourceName]⟩
  | tryPatch => exact ⟨rfl, rfl⟩
  | applyPatch => exact ⟨rfl, rfl⟩
  | script => exact ⟨rfl, List.prefix_append _ _⟩
  | transpile entry =>
      obtain ⟨hsystem, harch, -⟩ := Task.lookup?_overrides
        (taskOf configuration (configuration.plan.outputPath checkout) entry)
      exact ⟨rfl, hsystem, harch⟩

/-! ## Accounts -/

theorem Blames.not_succeeded
    {job : Job} {a : Attempt} {failure : Failure} (h : Blames configuration job a failure) :
    ¬a.Succeeded := by
  cases h with
  | clone hfailed => exact hfailed.not_succeeded
  | notTried => exact nofun
  | drift hending =>
      intro hsucceeded
      exact hending (Except.ok.inj hsucceeded)
  | applyPatch hfailed => exact hfailed.not_succeeded
  | script hfailed => exact hfailed.not_succeeded
  | transpile hfailed => exact hfailed.not_succeeded

section Account

variable {listed others : List Job} {tried more : List Attempt} {outcome : Option Failure}
  {failure : Failure}

theorem Account.append
    (h : Account configuration checkout listed tried none)
    (h' : Account configuration checkout others more outcome) :
    Account configuration checkout (listed ++ others) (tried ++ more) outcome := by
  cases h with
  | complete commands succeeded =>
      have hcommands {done : List Job} {attempts : List Attempt}
          (h : attempts.map Attempt.command = done.map (Job.command configuration checkout)) :
          (tried ++ attempts).map Attempt.command =
            (listed ++ done).map (Job.command configuration checkout) := by
        rw [List.map_append, List.map_append, commands, h]
      have hsucceeded {attempts : List Attempt} (h : ∀ a ∈ attempts, a.Succeeded) :
          ∀ a ∈ tried ++ attempts, a.Succeeded := by
        intro a ha
        rcases List.mem_append.mp ha with ha | ha
        · exact succeeded a ha
        · exact h a ha
      cases h' with
      | complete commands' succeeded' =>
          exact .complete (hcommands commands') (hsucceeded succeeded')
      | between commands' succeeded' hother =>
          rw [← List.append_assoc]
          exact .between (hcommands commands') (hsucceeded succeeded') hother
      | culprit commands' succeeded' command blames =>
          rw [← List.append_assoc, ← List.append_assoc]
          exact .culprit (hcommands commands') (hsucceeded succeeded') command blames

/-- After a failure it does not matter which jobs are left. -/
theorem Account.weaken
    (h : Account configuration checkout listed tried (some failure)) (others : List Job) :
    Account configuration checkout (listed ++ others) tried (some failure) := by
  cases h with
  | between commands succeeded hother =>
      rw [List.append_assoc]
      exact .between commands succeeded hother
  | culprit commands succeeded command blames =>
      rw [List.append_assoc, List.cons_append]
      exact .culprit commands succeeded command blames

/-- The commands that were tried are the first ones of the jobs. -/
theorem Account.commands_prefix (h : Account configuration checkout listed tried outcome) :
    tried.map Attempt.command <+: listed.map (Job.command configuration checkout) := by
  cases h with
  | complete commands succeeded => exact ⟨[], by rw [List.append_nil, commands]⟩
  | between commands succeeded hother =>
      rw [commands, List.map_append]
      exact List.prefix_append _ _
  | culprit commands succeeded command blames =>
      rw [List.map_append, commands, List.map_append, List.prefix_append_right_inj]
      exact ⟨_, by rw [List.map_singleton, command]; rfl⟩

theorem Account.command_eq
    {job : Job} {a : Attempt} (h : Account configuration checkout listed tried outcome)
    (hmem : (job, a) ∈ listed.zip tried) :
    a.command = job.command configuration checkout := by
  obtain ⟨i, hi, hpair⟩ := List.mem_iff_getElem.mp hmem
  rw [List.getElem_zip] at hpair
  obtain ⟨rfl, rfl⟩ := Prod.mk.inj hpair
  have htried : i < (tried.map Attempt.command).length := by
    rw [List.length_zip] at hi
    rw [List.length_map]
    omega
  simpa using h.commands_prefix.getElem htried

theorem Account.commands_eq (h : Account configuration checkout listed tried none) :
    tried.map Attempt.command = listed.map (Job.command configuration checkout) ∧
      ∀ a ∈ tried, a.Succeeded := by
  cases h with
  | complete commands succeeded => exact ⟨commands, succeeded⟩

/-- Whatever was tried before another command has succeeded. -/
theorem Account.succeeded_of_append
    {before later : List Attempt} {a : Attempt}
    (h : Account configuration checkout listed tried outcome)
    (htried : tried = before ++ a :: later) :
    ∀ b ∈ before, b.Succeeded := by
  intro b hb
  cases h with
  | complete commands succeeded =>
      apply succeeded
      rw [htried]
      exact List.mem_append_left _ hb
  | between commands succeeded hother =>
      apply succeeded
      rw [htried]
      exact List.mem_append_left _ hb
  | @culprit done rest first job last failure commands succeeded command blames =>
      -- Only the last attempt may have failed, and `b` is still there without it.
      apply succeeded
      have hdrop := congrArg List.dropLast htried
      rw [List.dropLast_concat, List.dropLast_append_of_ne_nil (List.cons_ne_nil a later)] at hdrop
      rw [hdrop]
      exact List.mem_append_left _ hb

theorem zip_append_of_commands
    {done rest : List Job} {more : List Attempt}
    (commands : tried.map Attempt.command = done.map (Job.command configuration checkout)) :
    (done ++ rest).zip (tried ++ more) = done.zip tried ++ rest.zip more := by
  apply List.zip_append
  have hlength := congrArg List.length commands
  rw [List.length_map, List.length_map] at hlength
  exact hlength.symm

/-- A process that failed is blamed by the failure of the run. -/
theorem Account.exists_blames
    {job : Job} {a : Attempt} (h : Account configuration checkout listed tried outcome)
    (hmem : (job, a) ∈ listed.zip tried) (hfailed : ¬a.Succeeded) :
    ∃ failure, outcome = some failure ∧ Blames configuration job a failure := by
  have ha := (List.of_mem_zip hmem).2
  cases h with
  | complete commands succeeded => exact absurd (succeeded a ha) hfailed
  | between commands succeeded hother => exact absurd (succeeded a ha) hfailed
  | @culprit done rest first culprit last failure commands succeeded command blames =>
      rw [zip_append_of_commands commands, List.zip_cons_cons, List.zip_nil_right] at hmem
      rcases List.mem_append.mp hmem with hmem | hmem
      · exact absurd (succeeded a (List.of_mem_zip hmem).2) hfailed
      · cases List.mem_singleton.mp hmem
        exact ⟨failure, rfl, blames⟩

/-- A failure that blames a tool blames a process that failed. -/
theorem Account.exists_culprit
    (h : Account configuration checkout listed tried (some failure))
    (hfailure : failure.BlamesTool) :
    ∃ job a, (job, a) ∈ listed.zip tried ∧ Blames configuration job a failure := by
  cases h with
  | between commands succeeded hother => exact absurd hfailure hother
  | @culprit done rest first job a failure commands succeeded command blames =>
      refine ⟨job, a, ?_, blames⟩
      rw [zip_append_of_commands commands, List.zip_cons_cons, List.zip_nil_right]
      exact List.mem_append_right _ (List.mem_singleton_self _)

end Account

/-! ## Jobs one after the other -/

section Undergoes

variable {before middle after : Host} {listed others : List Job} {outcome : Option Failure}
  {failure : Failure}

theorem Undergoes.append
    (h : Undergoes configuration checkout before middle listed none)
    (h' : Undergoes configuration checkout middle after others outcome) :
    Undergoes configuration checkout before after (listed ++ others) outcome := by
  obtain ⟨tried, htries, haccount⟩ := h
  obtain ⟨more, htries', haccount'⟩ := h'
  exact ⟨tried ++ more, htries.trans htries', haccount.append haccount'⟩

theorem Undergoes.weaken
    (h : Undergoes configuration checkout before after listed (some failure)) (others : List Job) :
    Undergoes configuration checkout before after (listed ++ others) (some failure) := by
  obtain ⟨tried, htries, haccount⟩ := h
  exact ⟨tried, htries, haccount.weaken others⟩

theorem Undergoes.working
    (h : Undergoes configuration checkout before after listed outcome)
    (hsinks : before.sinks.Working) :
    after.sinks.Working := by
  obtain ⟨tried, htries, -⟩ := h
  exact htries.sinks hsinks

theorem undergoes_nil (h : before.Tries after []) :
    Undergoes configuration checkout before after [] none :=
  ⟨[], h, .complete rfl nofun⟩

/-- A failure that blames no tool may come before any job. -/
theorem undergoes_of_not_blamesTool
    (h : before.Tries after []) (hfailure : ¬failure.BlamesTool) (listed : List Job) :
    Undergoes configuration checkout before after listed (some failure) :=
  ⟨[], h, @Account.between _ _ [] listed [] failure rfl nofun hfailure⟩

theorem undergoes_of_success
    (job : Job)
    (h : before.Tries after [⟨job.command configuration checkout, .ok (.exited 0)⟩]) :
    Undergoes configuration checkout before after [job] none := by
  refine ⟨_, h, .complete rfl ?_⟩
  intro a ha
  obtain rfl := List.mem_singleton.mp ha
  rfl

theorem undergoes_of_blames
    (job : Job) {result : Except IoError Ending}
    (h : before.Tries after [⟨job.command configuration checkout, result⟩])
    (hblames : Blames configuration job ⟨job.command configuration checkout, result⟩ failure) :
    Undergoes configuration checkout before after [job] (some failure) :=
  ⟨_, h, @Account.culprit _ _ [] [] [] job _ failure rfl nofun rfl hblames⟩

end Undergoes

end Generation

end CrossGen
