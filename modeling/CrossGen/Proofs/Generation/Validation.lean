import CrossGen.Proofs.Generation.Attribution
import CrossGen.Proofs.Target.WellFormed

/-!
# Everything is checked before anything runs

A matrix that is resolved has entries, and its shape supports all of their targets.  The checks that
a run makes once more are therefore always passed: what its stages report is never a mistake of the
configuration or of the targets, and such mistakes end the program before it has done anything.
-/

namespace CrossGen

/-! ## What the stages report -/

/-- A failure of the work itself, as opposed to a mistake of the configuration or of the targets. -/
def Failure.IsWork : Failure → Prop
  | .configuration _ | .target _ => False
  | _ => True

theorem Failure.Names.isWork
    {stage : Stage} {failure : Failure} (h : failure.Names stage)
    (hstage : stage ≠ .configuration) :
    failure.IsWork := by
  cases failure with
  | configuration text => exact absurd h.symm hstage
  | target error => exact absurd h.symm hstage
  | fetch | patchMissing | patchDrift | patch | combine | combineTool | transpile | missingOutput
    | io => exact trivial

/-! ## Runs -/

namespace Generation

variable {configuration : Configuration} {matrix : Matrix} {s t : Run} {failure : Failure}

theorem FailsToPrepare.isWork
    (h : FailsToPrepare (.tools configuration) configuration s failure t) : failure.IsWork := by
  cases h with
  | fetch failed =>
      rcases Checkout.fetch_error_cases failed with hnames | ⟨cause, rfl, -⟩
      · exact hnames.isWork nofun
      · exact trivial
  | patch fetch failed =>
      have hnames := Checkout.failsOnlyWith_applyPatch _ _ _ _ _ failed
      exact hnames.isWork nofun
  | combine fetch patch failed =>
      rcases Combine.Method.run_error_cases failed with hnames | ⟨cause, progress, rfl, -⟩
      · exact hnames.isWork nofun
      · exact trivial

theorem FailsAt.isWork
    {stages : Stages} {shape : Shape} {combined : Path} {entry : Entry}
    (hsupported : shape.supports entry.target.system = true)
    (h : FailsAt stages configuration shape combined s entry failure t) : failure.IsWork := by
  cases h with
  | unsupported unsupported =>
      rw [hsupported] at unsupported
      cases unsupported
  | transpile supported failed => exact trivial
  | absent supported transpiled absent => exact trivial
  | unreadable supported transpiled present unreadable => exact trivial

/-- A run on a sound matrix fails in its work, if at all. -/
theorem isWork_of_run_error
    (hmatrix : matrix.Sound)
    (h : run (.tools configuration) configuration matrix s = .error failure t) :
    failure.IsWork := by
  cases hdirectory : Host.makeDirectories configuration.output s.host with
  | error e host =>
      rw [run_of_no_directory hmatrix.nonempty hdirectory] at h
      cases h
      exact trivial
  | ok done host =>
      cases (run_eq_error_iff hmatrix.nonempty hdirectory).mp h with
      | preparing failed => exact failed.isWork
      | @entry checkout combined _ _ _ before after entry _ _ prepared entries completed failed =>
          have hentry : entry ∈ matrix.entries := by
            rw [entries]
            exact List.mem_append_right before List.mem_cons_self
          exact failed.isWork (hmatrix.supported entry hentry)

end Generation

/-! ## The program -/

theorem Program.generate_of_configuration_error
    {env : Environment} {places : Places} {cause : Failure}
    (h : Configuration.ofEnvironment env places = .error cause) (host : Host) :
    Program.generate env places host = .error (.failure cause) host := by
  rw [generate, h]
  rfl

theorem Program.generate_of_resolve_error
    {env : Environment} {places : Places} {configuration : Configuration} {e : TargetError}
    (hconfiguration : Configuration.ofEnvironment env places = .ok configuration)
    (h : Matrix.resolve env .native = .error e) (host : Host) :
    Program.generate env places host = .error (.resolving e) host := by
  rw [generate, hconfiguration, h]
  rfl

/-- Whatever is wrong with the configuration or the targets ends the program at once: the host, with
its files and the commands that were started on it, is as it was.  And if nothing is wrong with them,
then on no host, whatever its files, its tools and its sinks are, does a run report that there is. -/
theorem configuration_is_validated_before_anything_runs (env : Environment) (places : Places) :
    (∀ cause, Configuration.ofEnvironment env places = .error cause →
      ∀ host, Program.generate env places host = .error (.failure cause) host) ∧
    (∀ configuration e, Configuration.ofEnvironment env places = .ok configuration →
      Matrix.resolve env .native = .error e →
      ∀ host, Program.generate env places host = .error (.resolving e) host) ∧
    ∀ platform configuration matrix,
      Configuration.ofEnvironment env places = .ok configuration →
      Matrix.resolve env platform = .ok matrix →
      ∀ start failure last,
        Generation.run (.tools configuration) configuration matrix start = .error failure last →
        (∀ text, failure ≠ .configuration text) ∧ ∀ error, failure ≠ .target error := by
  refine ⟨fun cause => Program.generate_of_configuration_error,
    fun configuration e => Program.generate_of_resolve_error, ?_⟩
  intro platform configuration matrix _ hresolve start failure last hrun
  have hwork := Generation.isWork_of_run_error (Matrix.sound_of_resolve hresolve) hrun
  constructor
  · rintro text rfl
    exact hwork
  · rintro error rfl
    exact hwork

/-- An environment in which one of the targets is one that lists do not support. -/
def refusedEnvironment : Environment :=
  .ofPairs [("ZSTD_GEN_COMBINER", "native"), ("ZSTD_GEN_TARGETS", "linux_amd64;windows_386")]

/-- One such target is enough, also if the combiner and the other targets are fine. -/
theorem refused_before_anything_runs :
    Program.generate refusedEnvironment ⟨⟨"/patches/p.patch"⟩, ⟨"/out"⟩⟩
        (.fresh .empty .root .empty fun _ => .error .notFound) =
      .error (.resolving (.unsupported "windows_386" "matrix"))
        (.fresh .empty .root .empty fun _ => .error .notFound) := by
  have hresolve : Matrix.resolve refusedEnvironment .native =
      .error (.unsupported "windows_386" "matrix") := by
    decide +kernel
  obtain ⟨-, hrefused, -⟩ := configuration_is_validated_before_anything_runs refusedEnvironment
    ⟨⟨"/patches/p.patch"⟩, ⟨"/out"⟩⟩
  cases hconfiguration : Configuration.ofEnvironment refusedEnvironment
      ⟨⟨"/patches/p.patch"⟩, ⟨"/out"⟩⟩ with
  | ok configuration => exact hrefused configuration _ hconfiguration hresolve _
  | error cause =>
      have hok : (Configuration.ofEnvironment refusedEnvironment
          ⟨⟨"/patches/p.patch"⟩, ⟨"/out"⟩⟩).isOk = true := by
        decide +kernel
      rw [hconfiguration] at hok
      cases hok

end CrossGen
