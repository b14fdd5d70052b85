import CrossGen.Program
import CrossGen.Proofs.Combine.NativeRun
import CrossGen.Proofs.Generation.FirstFailure

/-!
# The stage that a failure names

A run that fails inside a stage reports a failure of this stage, with one exception.  A stage also
asks some things of the host itself, without a tool: a directory to work in, a place for the
combined text, a look at an output that is there.  If one of them is refused, the failure is passed
on as it is, and then it names the configuration and not the stage.
-/

namespace CrossGen

def Failure.Names (stage : Stage) (failure : Failure) : Prop :=
  failure.stage = stage

/-! ## What the stages report -/

theorem Checkout.failsOnlyWith_tryPatch (checkout : Checkout) (patch : Path) :
    FailsOnlyWith (Failure.Names .patch) (checkout.tryPatch patch) := by
  unfold Checkout.tryPatch
  apply FailsOnlyWith.bind
  · apply Host.failsOnlyWith_failAs
    exact fun _ => rfl
  · intro ending
    split
    · exact failsOnlyWith_pure _ ()
    · exact failsOnlyWith_throw rfl

theorem Checkout.failsOnlyWith_applyPatch (checkout : Checkout) (patch : Path) :
    FailsOnlyWith (Failure.Names .patch) (checkout.applyPatch patch) := by
  unfold Checkout.applyPatch
  apply FailsOnlyWith.bind
  · apply Host.failsOnlyWith_failAs
    exact fun _ => rfl
  · intro content
    refine (checkout.failsOnlyWith_tryPatch patch).bind fun _ => ?_
    apply Host.failsOnlyWith_failAs
    exact fun _ => rfl

theorem Combine.Script.failsOnlyWith_run
    (script : Combine.Script) (checkout : Checkout) (plan : Combine.Plan) :
    FailsOnlyWith (Failure.Names .combine) (script.run checkout plan) := by
  unfold Combine.Script.run
  apply FailsOnlyWith.bind
  · apply Host.failsOnlyWith_failAs
    exact fun _ => rfl
  · intro done
    refine (Host.failsOnlyWith_isFile _ _).bind fun found => ?_
    cases found with
    | true => exact failsOnlyWith_pure _ _
    | false => exact failsOnlyWith_throw rfl

/-- Fetching fails with a failure of its own, unless there is no directory to fetch into. -/
theorem Checkout.fetch_error_cases
    {release : Release} {host next : Host} {failure : Failure}
    (h : Checkout.fetch none release host = .error failure next) :
    failure.Names .fetch ∨
      ∃ cause, failure = .io cause ∧ Checkout.make none host = .error cause next := by
  rcases bind_eq_error_iff.mp h with hmake | ⟨checkout, middle, -, hrest⟩
  · obtain ⟨cause, hrefused, rfl⟩ := Host.failAs_eq_error_iff.mp hmake
    exact .inr ⟨cause, rfl, hrefused⟩
  · rcases bind_eq_error_iff.mp hrest with hclone | ⟨done, last, -, hanswer⟩
    · obtain ⟨e, -, rfl⟩ := Host.failAs_eq_error_iff.mp hclone
      exact .inl rfl
    · cases hanswer

/-- Combining fails with a failure of its own, unless there is no place for what was combined. -/
theorem Combine.Method.run_error_cases
    {method : Combine.Method} {checkout : Checkout} {plan : Combine.Plan} {host next : Host}
    {failure : Failure} (h : method.run checkout plan host = .error failure next) :
    failure.Names .combine ∨
      ∃ cause progress, failure = .io cause ∧ method = .native ∧ next = host ∧
        Combine.combine (plan.rules checkout host) (plan.inputPath checkout) = .ok progress ∧
        host.files.write host.directory (plan.outputPath checkout) progress.text.toUTF8 =
          .error cause := by
  cases method with
  | script => exact .inl (Combine.Script.default.failsOnlyWith_run checkout plan _ _ _ h)
  | native =>
      change Combine.runNative checkout plan host = _ at h
      rcases Combine.runNative_cases checkout plan host with
        ⟨cause, hcombine, hrun⟩ | ⟨progress, cause, hcombine, hwrite, hrun⟩ | ⟨written, hrun⟩
      · rw [hrun] at h
        cases h
        obtain ⟨text, rfl⟩ := Combine.exists_text_of_combine_error hcombine
        exact .inl rfl
      · rw [hrun] at h
        cases h
        exact .inr ⟨cause, progress, rfl, rfl, rfl, hcombine, hwrite⟩
      · rw [hrun] at h
        cases h

namespace Generation

/-! ## Failing inside a stage -/

section Stages

variable (stages : Stages) (configuration : Configuration) (matrix : Matrix)

/-- A run fails inside a stage: in one of the calls that prepare the sources, or in producing the
output for a target that can be transpiled, after all stages and entries before it. -/
inductive FailsIn (s : Run) : Stage → Failure → Run → Prop
  | fetch {failure : Failure} {host : Host}
      (failed : stages.fetch configuration.release s.host = .error failure host) :
      FailsIn s .fetch failure ⟨host, s.calls ++ [.fetch configuration.release]⟩
  | patch {checkout : Checkout} {fetched host : Host} {failure : Failure}
      (fetch : stages.fetch configuration.release s.host = .ok checkout fetched)
      (failed : stages.patch checkout configuration.patch fetched = .error failure host) :
      FailsIn s .patch failure
        ⟨host, s.calls ++ [.fetch configuration.release, .patch checkout configuration.patch]⟩
  | combine {checkout : Checkout} {fetched patched host : Host} {failure : Failure}
      (fetch : stages.fetch configuration.release s.host = .ok checkout fetched)
      (patch : stages.patch checkout configuration.patch fetched = .ok () patched)
      (failed : stages.combine checkout configuration.plan patched = .error failure host) :
      FailsIn s .combine failure ⟨host, s.calls ++ preparation configuration checkout⟩
  | transpile {checkout : Checkout} {combined : Path} {t u v : Run} {done rest : List Entry}
      {entry : Entry} {files : List GeneratedFile} {failure : Failure}
      (prepared : Prepares stages configuration s checkout combined t)
      (entries : matrix.entries = done ++ entry :: rest)
      (completed : Completed stages configuration matrix.shape combined t done files u)
      (supported : matrix.shape.supports entry.target.system = true)
      (failed : FailsAt stages configuration matrix.shape combined u entry failure v) :
      FailsIn s .transpile failure v

variable {stages configuration matrix} {s t : Run} {stage : Stage} {failure : Failure}

theorem FailsIn.stopsAt (h : FailsIn stages configuration matrix s stage failure t) :
    StopsAt stages configuration matrix s failure t := by
  cases h with
  | fetch failed => exact .preparing (.fetch failed)
  | patch fetch failed => exact .preparing (.patch fetch failed)
  | combine fetch patch failed => exact .preparing (.combine fetch patch failed)
  | transpile prepared entries completed supported failed =>
      exact .entry prepared entries completed failed

end Stages

/-! ## What the host refuses -/

section Tools

variable (configuration : Configuration) (matrix : Matrix)

/-- The host refuses what a stage asks of it itself. -/
inductive Refuses (s : Run) : Stage → IoError → Run → Prop
  | directory {cause : IoError} {host : Host}
      (refused : Checkout.make none s.host = .error cause host) :
      Refuses s .fetch cause ⟨host, s.calls ++ [.fetch configuration.release]⟩
  | combined {checkout : Checkout} {fetched patched : Host} {progress : Combine.Progress}
      {cause : IoError}
      (fetch : Checkout.fetch none configuration.release s.host = .ok checkout fetched)
      (patch : checkout.applyPatch configuration.patch fetched = .ok () patched)
      (method : configuration.combiner = .native)
      (inlined : Combine.combine (configuration.plan.rules checkout patched)
        (configuration.plan.inputPath checkout) = .ok progress)
      (refused : patched.files.write patched.directory (configuration.plan.outputPath checkout)
        progress.text.toUTF8 = .error cause) :
      Refuses s .combine cause ⟨patched, s.calls ++ preparation configuration checkout⟩
  | output {checkout : Checkout} {combined : Path} {t u : Run} {host : Host}
      {done rest : List Entry} {entry : Entry} {files : List GeneratedFile} {cause : IoError}
      (prepared : Prepares (.tools configuration) configuration s checkout combined t)
      (entries : matrix.entries = done ++ entry :: rest)
      (completed :
        Completed (.tools configuration) configuration matrix.shape combined t done files u)
      (supported : matrix.shape.supports entry.target.system = true)
      (transpiled : (Stages.tools configuration).transpile (taskOf configuration combined entry)
        u.host = .ok () host)
      (present : host.files.isFile host.directory (outputOf configuration entry) = true)
      (refused :
        host.files.read host.directory (outputOf configuration entry) = .error cause) :
      Refuses s .transpile cause ⟨host, u.calls ++ [callOf configuration combined entry]⟩

variable {configuration matrix} {s t : Run} {stage : Stage} {failure : Failure}

theorem Refuses.failsIn
    {cause : IoError} (h : Refuses configuration matrix s stage cause t) :
    FailsIn (.tools configuration) configuration matrix s stage (.io cause) t := by
  cases h with
  | directory refused =>
      apply FailsIn.fetch
      exact bind_of_error (Host.failAs_of_error refused _) _
  | combined fetch patch method inlined refused =>
      apply FailsIn.combine fetch patch
      change configuration.combiner.run _ _ _ = _
      rw [method]
      exact Combine.runNative_of_write_error inlined refused
  | output prepared entries completed supported transpiled present refused =>
      exact .transpile prepared entries completed supported
        (.unreadable supported transpiled present refused)

/-- A stage fails with a failure that names it, unless it is refused something. -/
theorem FailsIn.names_or_refuses
    (h : FailsIn (.tools configuration) configuration matrix s stage failure t) :
    failure.Names stage ∨
      ∃ cause, failure = .io cause ∧ Refuses configuration matrix s stage cause t := by
  cases h with
  | fetch failed =>
      rcases Checkout.fetch_error_cases failed with hnames | ⟨cause, rfl, hrefused⟩
      · exact .inl hnames
      · exact .inr ⟨cause, rfl, .directory hrefused⟩
  | patch fetch failed => exact .inl (Checkout.failsOnlyWith_applyPatch _ _ _ _ _ failed)
  | combine fetch patch failed =>
      rcases Combine.Method.run_error_cases failed with
        hnames | ⟨cause, progress, rfl, hmethod, rfl, hinlined, hrefused⟩
      · exact .inl hnames
      · exact .inr ⟨cause, rfl, .combined fetch patch hmethod hinlined hrefused⟩
  | transpile prepared entries completed supported failed =>
      cases failed with
      | unsupported unsupported =>
          rw [supported] at unsupported
          cases unsupported
      | transpile supported failed => exact .inl rfl
      | absent supported transpiled absent => exact .inl rfl
      | unreadable supported transpiled present unreadable =>
          exact .inr ⟨_, rfl,
            .output prepared entries completed supported transpiled present unreadable⟩

theorem Refuses.stage_ne {cause : IoError} (h : Refuses configuration matrix s stage cause t) :
    stage ≠ .configuration := by
  cases h with
  | directory | combined | output => exact nofun

end Tools

end Generation

/-! ## The stage that is reported -/

theorem Program.generate_of_run_error
    {env : Environment} {places : Places} {configuration : Configuration} {matrix : Matrix}
    {start : Host} {failure : Failure} {t : Generation.Run}
    (hconfiguration : Configuration.ofEnvironment env places = .ok configuration)
    (hresolve : Matrix.resolve env .native = .ok matrix)
    (hrun : Generation.run (.tools configuration) configuration matrix ⟨start, []⟩ =
      .error failure t) :
    Program.generate env places start = .error (.inStage failure) (releaseSinks t.host) := by
  have hconsole : runOnConsole (Generation.run (.tools configuration) configuration matrix) start =
      .error failure (releaseSinks t.host) := by
    rw [runOnConsole, hrun]
  rw [generate, hconfiguration, hresolve]
  exact bind_of_error (Host.failAs_of_error hconsole _) _

namespace Generation

variable {configuration : Configuration} {matrix : Matrix} {start host : Host} {stage : Stage}
  {failure : Failure} {t : Run}

/-- A run that fails inside a stage reports a failure that names this stage exactly if the host
refused the stage nothing.  What was refused is reported under the configuration instead.  Either
way the program says of the stage that is named that it failed. -/
theorem failure_names_stage_iff_nothing_refused
    (hentries : matrix.entries ≠ [])
    (hdirectory : Host.makeDirectories configuration.output start = .ok () host)
    (h : FailsIn (.tools configuration) configuration matrix ⟨host, []⟩ stage failure t) :
    run (.tools configuration) configuration matrix ⟨start, []⟩ = .error failure t ∧
    (failure.stage = stage ↔
      ∀ cause u, ¬Refuses configuration matrix ⟨host, []⟩ stage cause u) ∧
    (∀ cause u, Refuses configuration matrix ⟨host, []⟩ stage cause u →
      failure = .io cause ∧ failure.stage = .configuration) ∧
    ∀ env places, Configuration.ofEnvironment env places = .ok configuration →
      Matrix.resolve env .native = .ok matrix →
      Program.generate env places start =
        .error (.inStage failure) (Program.releaseSinks t.host) ∧
      (ProgramError.inStage failure).trail.head? =
        some (failure.stage.name ++ " stage failed") := by
  have hrun : run (.tools configuration) configuration matrix ⟨start, []⟩ = .error failure t :=
    h.stopsAt.run_eq hentries hdirectory
  have hrefused : ∀ cause u, Refuses configuration matrix ⟨host, []⟩ stage cause u →
      failure = .io cause ∧ failure.stage = .configuration := by
    intro cause u hrefuses
    -- What is refused ends the same run, so that it is this failure.
    have hother : run (.tools configuration) configuration matrix ⟨start, []⟩ =
        .error (.io cause) u :=
      hrefuses.failsIn.stopsAt.run_eq hentries hdirectory
    rw [hrun] at hother
    cases hother
    exact ⟨rfl, rfl⟩
  refine ⟨hrun, ?_, hrefused, ?_⟩
  · constructor
    · intro hstage cause u hrefuses
      apply hrefuses.stage_ne
      rw [← hstage]
      exact (hrefused cause u hrefuses).2
    · intro hnothing
      rcases h.names_or_refuses with hnames | ⟨cause, -, hrefuses⟩
      · exact hnames
      · exact absurd hrefuses (hnothing cause t)
  · intro env places hconfiguration hresolve
    exact ⟨Program.generate_of_run_error hconfiguration hresolve hrun, rfl⟩

/-! ### Two hosts without git -/

def nativeEnvironment : Environment :=
  .ofPairs [("ZSTD_GEN_COMBINER", "native")]

def nativeMatrix : Matrix :=
  ⟨.single, [⟨⟨.linux, "amd64"⟩, none⟩]⟩

/-- If git cannot be started, the program says that fetching failed. -/
theorem missing_git_names_fetch :
    ∃ host t, FailsIn (.tools plainConfiguration) plainConfiguration nativeMatrix ⟨host, []⟩ .fetch
        (.fetch (.notStarted "git" .notFound)) t ∧
      Program.generate nativeEnvironment ⟨⟨"fix.patch"⟩, ⟨"gen"⟩⟩
          (hostWith ⟨[(⟨["tmp"]⟩, .directory)]⟩) =
        .error (.inStage (.fetch (.notStarted "git" .notFound))) (Program.releaseSinks t.host) ∧
      (ProgramError.inStage (.fetch (.notStarted "git" .notFound))).trail.head? =
        some "fetch stage failed" := by
  have hdirectory : Host.makeDirectories plainConfiguration.output
      (hostWith ⟨[(⟨["tmp"]⟩, .directory)]⟩) =
        .ok () (hostWith ⟨[(⟨["gen"]⟩, .directory), (⟨["tmp"]⟩, .directory)]⟩) := by rfl
  have hfetch : error? (Checkout.fetch none .pinned
      (hostWith ⟨[(⟨["gen"]⟩, .directory), (⟨["tmp"]⟩, .directory)]⟩)) =
        some (.fetch (.notStarted "git" .notFound)) := by decide +kernel
  obtain ⟨failed, hfailed⟩ := exists_eq_error hfetch
  have hfails : FailsIn (.tools plainConfiguration) plainConfiguration nativeMatrix
      ⟨hostWith ⟨[(⟨["gen"]⟩, .directory), (⟨["tmp"]⟩, .directory)]⟩, []⟩ .fetch _ _ :=
    .fetch hfailed
  obtain ⟨-, -, -, hgenerate⟩ :=
    failure_names_stage_iff_nothing_refused (by decide) hdirectory hfails
  obtain ⟨hreported, htrail⟩ := hgenerate nativeEnvironment ⟨⟨"fix.patch"⟩, ⟨"gen"⟩⟩
    (by rfl) (by rfl)
  exact ⟨_, _, hfails, hreported, htrail⟩

/-- If there is no directory for temporary ones, fetching fails and the configuration is named. -/
theorem missing_temporary_parent_names_configuration :
    ∃ host cause t, FailsIn (.tools plainConfiguration) plainConfiguration nativeMatrix ⟨host, []⟩
        .fetch (.io cause) t ∧
      run (.tools plainConfiguration) plainConfiguration nativeMatrix ⟨hostWith ⟨[]⟩, []⟩ =
        .error (.io cause) t ∧
      (Failure.io cause).stage ≠ .fetch := by
  have hdirectory : Host.makeDirectories plainConfiguration.output (hostWith ⟨[]⟩) =
      .ok () (hostWith ⟨[(⟨["gen"]⟩, .directory)]⟩) := by rfl
  have hstage : (error? (Checkout.fetch none .pinned
      (hostWith ⟨[(⟨["gen"]⟩, .directory)]⟩))).map Failure.stage = some .configuration := by
    decide +kernel
  obtain ⟨failure, hfetch, hnamed⟩ := Option.map_eq_some_iff.mp hstage
  obtain ⟨failed, hfailed⟩ := exists_eq_error hfetch
  have hfails : FailsIn (.tools plainConfiguration) plainConfiguration nativeMatrix
      ⟨hostWith ⟨[(⟨["gen"]⟩, .directory)]⟩, []⟩ .fetch failure _ :=
    .fetch hfailed
  have hrun : run (.tools plainConfiguration) plainConfiguration nativeMatrix ⟨hostWith ⟨[]⟩, []⟩ =
      .error failure _ :=
    hfails.stopsAt.run_eq (by decide) hdirectory
  rcases hfails.names_or_refuses with hnames | ⟨cause, rfl, -⟩
  · cases hnamed.symm.trans hnames
  · exact ⟨_, cause, _, hfails, hrun, nofun⟩

end Generation

end CrossGen
