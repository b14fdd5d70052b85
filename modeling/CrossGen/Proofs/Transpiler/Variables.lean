import CrossGen.Proofs.Environment
import CrossGen.Proofs.Host.Launching
import CrossGen.Proofs.Target.Resolution
import CrossGen.Transpiler.Task

/-!
# The variables of the transpiler

The transpiler is started with the variables of its caller, over which those of its task are laid:
the two that name the target, and the one that names the compiler, if the task has one.  If it
resolves a single target from what it sees, it finds its own.
-/

namespace CrossGen.Task

/-- What the program of a task sees, started from the given environment. -/
def surroundings (task : Task) (ambient : Environment) : Environment :=
  ambient.setAll task.overrides.entries

variable (task : Task) (ambient : Environment)

theorem environment_of_launch
    {task : Task} {host : Host} {program : String} {isRead : Bool} {launch : Launch}
    (h : host.launch isRead (task.command program) = .ok launch) :
    launch.environment = task.surroundings host.environment := by
  obtain ⟨-, -, henvironment⟩ := Host.words_of_launch h
  exact henvironment

theorem lookup?_overrides :
    task.overrides.lookup? "TARGET_GOOS" = some task.target.system.name ∧
      task.overrides.lookup? "TARGET_GOARCH" = some task.target.arch ∧
      task.overrides.lookup? compilerVariable = task.compiler := by
  simp only [overrides, Environment.lookup?_ofPairs]
  cases task.compiler with
  | none => exact ⟨rfl, rfl, rfl⟩
  | some compiler => exact ⟨rfl, rfl, rfl⟩

theorem lookup?_overrides_of_ne
    {name : String} (hsystem : name ≠ "TARGET_GOOS") (harch : name ≠ "TARGET_GOARCH")
    (hcompiler : name ≠ compilerVariable) :
    task.overrides.lookup? name = none := by
  rw [overrides, Environment.lookup?_ofPairs]
  apply Option.map_eq_none_iff.mpr
  apply List.find?_eq_none.mpr
  intro pair hpair
  have hnames : pair.1 = "TARGET_GOOS" ∨ pair.1 = "TARGET_GOARCH" ∨ pair.1 = compilerVariable := by
    have hmem := List.mem_append.mp (List.mem_reverse.mp hpair)
    rcases hmem with hmem | hmem
    · rcases List.mem_cons.mp hmem with rfl | hmem
      · exact Or.inl rfl
      · obtain rfl := List.mem_singleton.mp hmem
        exact Or.inr (Or.inl rfl)
    · obtain ⟨compiler, -, rfl⟩ := Option.map_eq_some_iff.mp (Option.mem_toList.mp hmem)
      exact Or.inr (Or.inr rfl)
  rcases hnames with hname | hname | hname
  · simpa [hname] using hsystem.symm
  · simpa [hname] using harch.symm
  · simpa [hname] using hcompiler.symm

theorem lookup?_surroundings_compiler :
    (task.surroundings ambient).lookup? compilerVariable =
      task.compiler.or (ambient.lookup? compilerVariable) := by
  rw [surroundings, Environment.lookup?_setAll_entries, task.lookup?_overrides.2.2]

theorem lookup?_surroundings_of_ne
    {name : String} (hsystem : name ≠ "TARGET_GOOS") (harch : name ≠ "TARGET_GOARCH")
    (hcompiler : name ≠ compilerVariable) :
    (task.surroundings ambient).lookup? name = ambient.lookup? name := by
  rw [surroundings, Environment.lookup?_setAll_entries,
    lookup?_overrides_of_ne task hsystem harch hcompiler, Option.none_or]

theorem value?_surroundings_of_overrides
    {name value : String} (h : task.overrides.lookup? name = some value) (hne : value ≠ "") :
    (task.surroundings ambient).value? name = some value := by
  apply Environment.value?_eq_some_iff.mpr
  refine ⟨?_, hne⟩
  rw [surroundings, Environment.lookup?_setAll_entries, h, Option.some_or]

theorem value?_surroundings_of_ne
    {name : String} (hsystem : name ≠ "TARGET_GOOS") (harch : name ≠ "TARGET_GOARCH")
    (hcompiler : name ≠ compilerVariable) :
    (task.surroundings ambient).value? name = ambient.value? name := by
  unfold Environment.value?
  rw [lookup?_surroundings_of_ne task ambient hsystem harch hcompiler]

/-! ## The target that the transpiler sees -/

/-- The first variable of each chain is set by the task, so that no other one is looked at. -/
theorem firstValueD_surroundings
    {first second value : String} (h : task.overrides.lookup? first = some value)
    (hne : value ≠ "") (fallback : String) :
    (task.surroundings ambient).firstValueD [first, second] fallback = value := by
  rw [Environment.firstValueD_pair, value?_surroundings_of_overrides task ambient h hne,
    Option.getD_some]

theorem resolveSingle_surroundings (harch : task.target.arch ≠ "") (platform : Platform) :
    Matrix.resolveSingle (task.surroundings ambient) platform =
      .ok ⟨.single, [⟨task.target, ambient.value? CrossGen.compilerVariable⟩]⟩ := by
  obtain ⟨hsystem, hname, -⟩ := task.lookup?_overrides
  apply Matrix.resolveSingle_eq_ok_iff.mpr
  refine ⟨task.target.system, ?_, ?_⟩
  · exact firstValueD_surroundings task ambient hsystem task.target.system.name_ne_empty _
  · rw [archChain, firstValueD_surroundings task ambient hname harch,
      value?_surroundings_of_ne task ambient (by decide) (by decide) (by decide)]

def ofEntry (entry : Entry) (args : List String) : Task :=
  ⟨entry.target, args, entry.compiler⟩

/-- Whatever its caller sees, a transpiler that is started for an entry sees the target of that
entry, as the one that a single target is resolved to on every platform.  It sees the compiler of the
entry, or that of its caller if the entry has none, and all other variables are its caller's. -/
theorem child_sees_its_own_target
    (entry : Entry) (harch : entry.target.arch ≠ "") (args : List String)
    (ambient : Environment) :
    (∀ (host : Host) (program : String) (isRead : Bool) (launch : Launch),
      host.environment = ambient →
      host.launch isRead ((ofEntry entry args).command program) = .ok launch →
        launch.environment = (ofEntry entry args).surroundings ambient) ∧
    (∀ platform, Matrix.resolveSingle ((ofEntry entry args).surroundings ambient) platform =
      .ok ⟨.single, [⟨entry.target, ambient.value? CrossGen.compilerVariable⟩]⟩) ∧
    ((ofEntry entry args).surroundings ambient).lookup? "CC" =
      entry.compiler.or (ambient.lookup? "CC") ∧
    ∀ name, name ≠ "TARGET_GOOS" → name ≠ "TARGET_GOARCH" → name ≠ "CC" →
      ((ofEntry entry args).surroundings ambient).lookup? name = ambient.lookup? name := by
  refine ⟨?_, resolveSingle_surroundings (ofEntry entry args) ambient harch,
    lookup?_surroundings_compiler (ofEntry entry args) ambient,
    fun name => lookup?_surroundings_of_ne (ofEntry entry args) ambient⟩
  rintro host program isRead launch rfl hlaunch
  exact environment_of_launch hlaunch

/-! ### A caller with a target of its own -/

/-- The variables of a caller that is itself to work for another target. -/
def otherTargets : Environment :=
  .ofPairs [("TARGET_GOOS", "darwin"), ("GOOS", "plan9"), ("TARGET_GOARCH", ""),
    ("GOARCH", "amd64"), ("CC", "gcc"), ("ZSTD_GEN_CC", "clang")]

/-- The target of the caller is hidden, and its compiler is seen, since the entry has none. -/
theorem child_sees_windows_beside_other_targets :
    "mips64_le" ≠ "" ∧
      Matrix.resolveSingle
          ((ofEntry ⟨⟨.windows, "mips64_le"⟩, none⟩ []).surroundings otherTargets)
          ⟨"linux", "386"⟩ =
        .ok ⟨.single, [⟨⟨.windows, "mips64_le"⟩, some "clang"⟩]⟩ ∧
      ((ofEntry ⟨⟨.windows, "mips64_le"⟩, none⟩ []).surroundings otherTargets).lookup? "CC" =
        some "gcc" := by
  have harch : "mips64_le" ≠ "" := by decide
  obtain ⟨-, hresolve, hcompiler, -⟩ :=
    child_sees_its_own_target ⟨⟨.windows, "mips64_le"⟩, none⟩ harch [] otherTargets
  have hsingle : otherTargets.value? CrossGen.compilerVariable = some "clang" := by
    decide +kernel
  have hcc : otherTargets.lookup? "CC" = some "gcc" := by decide +kernel
  refine ⟨harch, ?_, hcompiler.trans hcc⟩
  rw [hresolve, hsingle]

end CrossGen.Task
