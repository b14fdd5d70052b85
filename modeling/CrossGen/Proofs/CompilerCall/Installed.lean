import CrossGen.CompilerCall
import CrossGen.Proofs.Transpiler.Variables

/-!
# A wrapper that is installed as the compiler

The transpiler may be given the wrapper as its compiler, under the variable that the wrapper itself
looks at when no other one names the real compiler.  The wrapper then calls the real compiler if the
variable of its own names one, and otherwise it calls itself, again and again.
-/

namespace CrossGen.CompilerCall

/-! ## Which compiler is called -/

def UnknownSplit (env : Environment) : Prop :=
  ∃ value, env.value? "CCWRAP_SPLIT" = some value ∧ value ≠ "strict" ∧ value ≠ "legacy"

theorem exists_error_iff_unknownSplit {env : Environment} :
    (∃ e, ofEnvironment env = .error e) ↔ UnknownSplit env := by
  unfold ofEnvironment SplitMode.ofEnvironment UnknownSplit
  cases env.value? "CCWRAP_SPLIT" with
  | none => simp
  | some value =>
      by_cases hstrict : value = "strict"
      · simp [hstrict]
      · by_cases hlegacy : value = "legacy"
        · simp [hlegacy]
        · simp [hstrict, hlegacy]

theorem compiler_of_ofEnvironment
    {env : Environment} {call : CompilerCall} (h : ofEnvironment env = .ok call) :
    call.compiler = env.firstValueD ["CCWRAP_CC", "CC"] "cc" := by
  unfold ofEnvironment at h
  split at h
  · cases h
  · cases h
    rfl

/-! ## Chains of calls -/

/-- In an environment a wrapper that is installed under a path starts the compiler that the
environment names.  A program under another path is no wrapper. -/
def HandsOver (wrapper : String) (env : Environment) (program next : String) : Prop :=
  program = wrapper ∧ ∃ call, ofEnvironment env = .ok call ∧ call.compiler = next

/-- After finitely many calls, each of which is made by the program that was called before, there is
a program that makes none. -/
def ChainEnds (wrapper : String) (env : Environment) (program : String) : Prop :=
  Acc (fun next program => HandsOver wrapper env program next) program

variable {wrapper : String} {env : Environment}

theorem chainEnds_of_ne {program : String} (h : program ≠ wrapper) :
    ChainEnds wrapper env program := by
  constructor
  intro next hnext
  exact absurd hnext.1 h

theorem not_chainEnds_of_handsOver_self (h : HandsOver wrapper env wrapper wrapper) :
    ¬ChainEnds wrapper env wrapper := by
  have hforever : ∀ program, ChainEnds wrapper env program → program ≠ wrapper := by
    intro program hends
    induction hends with
    | intro program _ ih =>
        rintro rfl
        exact ih program h rfl
  intro hends
  exact hforever wrapper hends rfl

/-- The calls end exactly if the wrapper calls no compiler, or another program than itself. -/
theorem chainEnds_wrapper_iff :
    ChainEnds wrapper env wrapper ↔
      ∀ call, ofEnvironment env = .ok call → call.compiler ≠ wrapper := by
  constructor
  · intro hends call hcall hself
    exact not_chainEnds_of_handsOver_self ⟨rfl, call, hcall, hself⟩ hends
  · intro h
    constructor
    rintro next ⟨-, call, hcall, rfl⟩
    exact chainEnds_of_ne (h call hcall)

/-- A compiler is started in the environment of the wrapper, so that each wrapper of a chain sees
what the first one saw. -/
theorem launch_command
    {host : Host} {call : CompilerCall} {received : List String} {isRead : Bool} {launch : Launch}
    (h : host.launch isRead (call.command received) = .ok launch) :
    launch.program = call.compiler ∧ launch.environment = host.environment := by
  obtain ⟨hprogram, -, henvironment⟩ := Host.words_of_launch h
  exact ⟨hprogram, henvironment⟩

/-! ## The wrapper as the compiler of a task -/

section Installed

variable {task : Task} {ambient : Environment}

theorem compiler_of_surroundings
    (hcompiler : task.compiler = some wrapper) (hwrapper : wrapper ≠ "") {call : CompilerCall}
    (hcall : ofEnvironment (task.surroundings ambient) = .ok call) :
    call.compiler = (ambient.value? "CCWRAP_CC").getD wrapper := by
  have hinstalled : (task.surroundings ambient).value? "CC" = some wrapper :=
    Task.value?_surroundings_of_overrides task ambient
      (task.lookup?_overrides.2.2.trans hcompiler) hwrapper
  rw [compiler_of_ofEnvironment hcall, Environment.firstValueD_pair, hinstalled,
    Task.value?_surroundings_of_ne task ambient (by decide) (by decide) (by decide)]
  rfl

theorem unknownSplit_surroundings_iff :
    UnknownSplit (task.surroundings ambient) ↔ UnknownSplit ambient := by
  unfold UnknownSplit
  rw [Task.value?_surroundings_of_ne task ambient (by decide) (by decide) (by decide)]

end Installed

/-- A wrapper that a task has as its compiler is started with the variables of the caller and those
of the task.  Unless it refuses to split its arguments, it calls the compiler that its own variable
names, in the same environment, and itself if there is none.  So its calls end exactly if that
variable names another program. -/
theorem installed_wrapper_ends_iff_other_compiler_named
    (host : Host) {task : Task} (hcompiler : task.compiler = some wrapper)
    (hwrapper : wrapper ≠ "") :
    (∀ program isRead launch, host.launch isRead (task.command program) = .ok launch →
      launch.environment = task.surroundings host.environment) ∧
    (∀ (started : Host) (call : CompilerCall) received isRead launch,
      started.launch isRead (call.command received) = .ok launch →
        launch.program = call.compiler ∧ launch.environment = started.environment) ∧
    ((∃ e, ofEnvironment (task.surroundings host.environment) = .error e) ↔
      UnknownSplit host.environment) ∧
    (∀ call, ofEnvironment (task.surroundings host.environment) = .ok call →
      call.compiler = (host.environment.value? "CCWRAP_CC").getD wrapper) ∧
    (ChainEnds wrapper (task.surroundings host.environment) wrapper ↔
      UnknownSplit host.environment ∨
        ∃ compiler, host.environment.value? "CCWRAP_CC" = some compiler ∧ compiler ≠ wrapper) := by
  refine ⟨fun program isRead launch => Task.environment_of_launch,
    fun started call received isRead launch => launch_command,
    exists_error_iff_unknownSplit.trans unknownSplit_surroundings_iff,
    fun call => compiler_of_surroundings hcompiler hwrapper, ?_⟩
  rw [chainEnds_wrapper_iff, ← @unknownSplit_surroundings_iff task, ← exists_error_iff_unknownSplit]
  cases hcall : ofEnvironment (task.surroundings host.environment) with
  | error e => simp
  | ok call =>
      have hcalled := compiler_of_surroundings hcompiler hwrapper hcall
      cases hown : host.environment.value? "CCWRAP_CC" with
      | none =>
          rw [hown] at hcalled
          simpa using hcalled
      | some compiler =>
          rw [hown] at hcalled
          simp [hcalled]

/-! ### Two environments -/

def wrappedTask : Task :=
  ⟨⟨.linux, "amd64"⟩, [], some "/opt/ccwrap"⟩

def clangHost : Host :=
  .fresh .empty .root (.ofPairs [("CC", "gcc"), ("CCWRAP_CC", "clang")]) fun _ => .error .notFound

/-- A wrapper that is told of another compiler calls that one, and the calls end. -/
theorem installed_wrapper_calls_clang :
    wrappedTask.compiler = some "/opt/ccwrap" ∧ "/opt/ccwrap" ≠ "" ∧
      ChainEnds "/opt/ccwrap" (wrappedTask.surroundings clangHost.environment) "/opt/ccwrap" := by
  have hnonempty : "/opt/ccwrap" ≠ "" := by decide
  have hcompiler : wrappedTask.compiler = some "/opt/ccwrap" := rfl
  obtain ⟨-, -, -, -, hends⟩ :=
    installed_wrapper_ends_iff_other_compiler_named clangHost hcompiler hnonempty
  exact ⟨hcompiler, hnonempty, hends.mpr (Or.inr ⟨"clang", by decide, by decide⟩)⟩

/-- Without a variable of its own the wrapper takes the one under which it is installed for that of
the compiler, and calls itself forever. -/
theorem installed_wrapper_calls_itself :
    Environment.empty.lookup? "CCWRAP_CC" ≠ some "/opt/ccwrap" ∧
      (∃ call, ofEnvironment (wrappedTask.surroundings .empty) = .ok call ∧
        call.compiler = "/opt/ccwrap") ∧
      ¬ChainEnds "/opt/ccwrap" (wrappedTask.surroundings .empty) "/opt/ccwrap" := by
  have hcall : ∃ call, ofEnvironment (wrappedTask.surroundings .empty) = .ok call ∧
      call.compiler = "/opt/ccwrap" := ⟨⟨"/opt/ccwrap", []⟩, by rfl, rfl⟩
  exact ⟨by decide, hcall, not_chainEnds_of_handsOver_self ⟨rfl, hcall⟩⟩

end CrossGen.CompilerCall
