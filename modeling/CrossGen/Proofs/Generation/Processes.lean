import CrossGen.Proofs.Combine.NativeRun
import CrossGen.Proofs.Generation.Ending
import CrossGen.Proofs.Generation.Jobs
import CrossGen.Proofs.Transpiler.Forwarding

/-!
# The processes of a run

A run with the real tools starts its processes in a fixed order, and each of them only after all the
others before it have succeeded.  A process that fails ends the run, with a failure that tells which
one it was and what became of it.
-/

namespace CrossGen

theorem Checkout.changesFilesOnly_make (parent : Option Path) :
    Host.ChangesFilesOnly (Checkout.make parent) :=
  Host.changesFilesOnly_get.bind fun _ =>
    (Host.changesFilesOnly_makeTemporary _ _).bind fun _ => Host.changesFilesOnly_pure _

namespace Generation

variable {configuration : Configuration} {checkout : Checkout} {host next : Host}
  {failure : Failure}

/-! ## Tools -/

theorem undergoes_of_runTool
    (job : Job) (h : Host.runTool (job.command configuration checkout) host = .ok () next) :
    Undergoes configuration checkout host next [job] none :=
  undergoes_of_success job (Host.tries_of_runTool h)

theorem undergoes_of_runTool_error
    (job : Job) {e : ToolError}
    (h : Host.runTool (job.command configuration checkout) host = .error e next)
    (hblames : ∀ a : Attempt, a.FailedWith e → Blames configuration job a failure) :
    Undergoes configuration checkout host next [job] (some failure) := by
  obtain ⟨result, htries, hfailed⟩ := Host.tries_of_runTool_error h
  exact undergoes_of_blames job htries (hblames _ hfailed)

/-! ## Fetching -/

theorem undergoes_of_fetch
    (h : Checkout.fetch none configuration.release host = .ok checkout next) :
    Undergoes configuration checkout host next [.clone] none := by
  obtain ⟨made, middle, hmake, hrest⟩ := bind_eq_ok_iff.mp h
  obtain ⟨done, last, hclone, hanswer⟩ := bind_eq_ok_iff.mp hrest
  obtain ⟨rfl, rfl⟩ := pure_eq_ok_iff.mp hanswer
  have hquiet := (Checkout.changesFilesOnly_make none).of_ok (Host.failAs_eq_ok_iff.mp hmake)
  have htool : Undergoes configuration made middle last [.clone] none :=
    undergoes_of_runTool .clone (Host.failAs_eq_ok_iff.mp hclone)
  exact (undergoes_nil hquiet.tries).append htool

/-- Either no working directory can be made, or the sources cannot be fetched into it. -/
theorem undergoes_of_fetch_error
    (h : Checkout.fetch none configuration.release host = .error failure next) :
    ∃ checkout, Undergoes configuration checkout host next [.clone] (some failure) := by
  rcases bind_eq_error_iff.mp h with hmake | ⟨made, middle, hmake, hrest⟩
  · obtain ⟨e, hmade, rfl⟩ := Host.failAs_eq_error_iff.mp hmake
    have hquiet := (Checkout.changesFilesOnly_make none).of_error hmade
    exact ⟨⟨⟨""⟩⟩, undergoes_of_not_blamesTool hquiet.tries id _⟩
  · have hquiet := (Checkout.changesFilesOnly_make none).of_ok (Host.failAs_eq_ok_iff.mp hmake)
    rcases bind_eq_error_iff.mp hrest with hclone | ⟨done, last, -, hanswer⟩
    · obtain ⟨e, htool, rfl⟩ := Host.failAs_eq_error_iff.mp hclone
      have hfails : Undergoes configuration made middle next [.clone] (some (.fetch e)) :=
        undergoes_of_runTool_error .clone htool fun _ => .clone
      exact ⟨made, (undergoes_nil hquiet.tries).append hfails⟩
    · cases hanswer

/-! ## Patching -/

theorem undergoes_of_tryPatch (h : checkout.tryPatch configuration.patch host = .ok () next) :
    Undergoes configuration checkout host next [.tryPatch] none := by
  obtain ⟨ending, last, hshown, hrest⟩ := bind_eq_ok_iff.mp h
  have htries := Host.tries_of_executeShown (Host.failAs_eq_ok_iff.mp hshown)
  by_cases hsuccess : ending.isSuccess = true
  · rw [if_pos hsuccess] at hrest
    obtain ⟨-, rfl⟩ := pure_eq_ok_iff.mp hrest
    rw [Ending.isSuccess_iff.mp hsuccess] at htries
    exact undergoes_of_success .tryPatch htries
  · rw [if_neg hsuccess] at hrest
    cases hrest

/-- A dry run that cannot be started is told apart from one that says that the patch does not fit.
-/
theorem undergoes_of_tryPatch_error
    (h : checkout.tryPatch configuration.patch host = .error failure next) :
    Undergoes configuration checkout host next [.tryPatch] (some failure) := by
  rcases bind_eq_error_iff.mp h with hshown | ⟨ending, last, hshown, hrest⟩
  · obtain ⟨cause, hcause, rfl⟩ := Host.failAs_eq_error_iff.mp hshown
    exact undergoes_of_blames .tryPatch (Host.tries_of_executeShown_error hcause) .notTried
  · have htries := Host.tries_of_executeShown (Host.failAs_eq_ok_iff.mp hshown)
    by_cases hsuccess : ending.isSuccess = true
    · rw [if_pos hsuccess] at hrest
      cases hrest
    · rw [if_neg hsuccess] at hrest
      cases hrest
      have hending : ending ≠ .exited 0 := fun heq => hsuccess (Ending.isSuccess_iff.mpr heq)
      exact undergoes_of_blames .tryPatch htries (.drift hending)

theorem undergoes_of_applyPatch (h : checkout.applyPatch configuration.patch host = .ok () next) :
    Undergoes configuration checkout host next [.tryPatch, .applyPatch] none := by
  obtain ⟨content, middle, hread, hrest⟩ := bind_eq_ok_iff.mp h
  obtain ⟨done, tried, htry, happly⟩ := bind_eq_ok_iff.mp hrest
  have hquiet := (Host.changesFilesOnly_readFile _).of_ok (Host.failAs_eq_ok_iff.mp hread)
  have htool : Undergoes configuration checkout tried next [.applyPatch] none :=
    undergoes_of_runTool .applyPatch (Host.failAs_eq_ok_iff.mp happly)
  exact (undergoes_nil hquiet.tries).append ((undergoes_of_tryPatch htry).append htool)

/-- A patch that cannot be read is reported before anything is tried. -/
theorem undergoes_of_applyPatch_error
    (h : checkout.applyPatch configuration.patch host = .error failure next) :
    Undergoes configuration checkout host next [.tryPatch, .applyPatch] (some failure) := by
  rcases bind_eq_error_iff.mp h with hread | ⟨content, middle, hread, hrest⟩
  · obtain ⟨e, hrefused, rfl⟩ := Host.failAs_eq_error_iff.mp hread
    have hquiet := (Host.changesFilesOnly_readFile _).of_error hrefused
    exact undergoes_of_not_blamesTool hquiet.tries id _
  · have hquiet := (Host.changesFilesOnly_readFile _).of_ok (Host.failAs_eq_ok_iff.mp hread)
    have hnothing : Undergoes configuration checkout host middle [] none :=
      undergoes_nil hquiet.tries
    rcases bind_eq_error_iff.mp hrest with htry | ⟨done, tried, htry, happly⟩
    · exact hnothing.append ((undergoes_of_tryPatch_error htry).weaken [.applyPatch])
    · obtain ⟨e, htool, rfl⟩ := Host.failAs_eq_error_iff.mp happly
      have hfails : Undergoes configuration checkout tried next [.applyPatch] (some (.patch e)) :=
        undergoes_of_runTool_error .applyPatch htool fun _ => .applyPatch
      exact hnothing.append ((undergoes_of_tryPatch htry).append hfails)

/-! ## Combining -/

theorem undergoes_of_script
    {combined : Path}
    (h : Combine.Script.default.run checkout configuration.plan host = .ok combined next) :
    combined = configuration.plan.outputPath checkout ∧
      Undergoes configuration checkout host next [.script] none := by
  obtain ⟨done, middle, htool, hrest⟩ := bind_eq_ok_iff.mp h
  obtain ⟨present, last, hpresent, hanswer⟩ := bind_eq_ok_iff.mp hrest
  have hquiet := (Host.changesFilesOnly_isFile _).of_ok hpresent
  have hscript : Undergoes configuration checkout host middle [.script] none :=
    undergoes_of_runTool .script (Host.failAs_eq_ok_iff.mp htool)
  cases present with
  | true =>
      obtain ⟨rfl, rfl⟩ := pure_eq_ok_iff.mp hanswer
      exact ⟨rfl, hscript.append (undergoes_nil hquiet.tries)⟩
  | false => cases hanswer

/-- A script that succeeds and leaves nothing is not reported as a script that failed. -/
theorem undergoes_of_script_error
    (h : Combine.Script.default.run checkout configuration.plan host = .error failure next) :
    Undergoes configuration checkout host next [.script] (some failure) := by
  rcases bind_eq_error_iff.mp h with htool | ⟨done, middle, htool, hrest⟩
  · obtain ⟨e, hfailed, rfl⟩ := Host.failAs_eq_error_iff.mp htool
    exact undergoes_of_runTool_error .script hfailed fun _ => .script
  · have hscript : Undergoes configuration checkout host middle [.script] none :=
      undergoes_of_runTool .script (Host.failAs_eq_ok_iff.mp htool)
    rcases bind_eq_error_iff.mp hrest with hpresent | ⟨present, last, hpresent, hanswer⟩
    · cases hpresent
    · have hquiet := (Host.changesFilesOnly_isFile _).of_ok hpresent
      cases present with
      | true => cases hanswer
      | false =>
          cases hanswer
          exact hscript.append (undergoes_of_not_blamesTool hquiet.tries id [])

theorem undergoes_of_combine
    {combined : Path}
    (h : configuration.combiner.run checkout configuration.plan host = .ok combined next) :
    combined = configuration.plan.outputPath checkout ∧
      Undergoes configuration checkout host next (combiningJobs configuration.combiner) none := by
  cases hmethod : configuration.combiner with
  | script =>
      rw [hmethod] at h
      exact undergoes_of_script h
  | native =>
      rw [hmethod] at h
      change Combine.runNative checkout configuration.plan host = _ at h
      rcases Combine.runNative_cases checkout configuration.plan host with
        ⟨failure, -, hrun⟩ | ⟨progress, e, -, -, hrun⟩ | ⟨written, hrun⟩
      · rw [hrun] at h
        cases h
      · rw [hrun] at h
        cases h
      · rw [hrun] at h
        cases h
        exact ⟨rfl, undergoes_nil (Host.SameButFiles.tries rfl)⟩

theorem undergoes_of_combine_error
    (h : configuration.combiner.run checkout configuration.plan host = .error failure next) :
    Undergoes configuration checkout host next (combiningJobs configuration.combiner)
      (some failure) := by
  cases hmethod : configuration.combiner with
  | script =>
      rw [hmethod] at h
      exact undergoes_of_script_error h
  | native =>
      rw [hmethod] at h
      change Combine.runNative checkout configuration.plan host = _ at h
      rcases Combine.runNative_cases checkout configuration.plan host with
        ⟨cause, hcombine, hrun⟩ | ⟨progress, e, -, -, hrun⟩ | ⟨written, hrun⟩
      · rw [hrun] at h
        cases h
        obtain ⟨text, rfl⟩ := Combine.exists_text_of_combine_error hcombine
        exact undergoes_of_not_blamesTool (Host.Tries.refl host) id _
      · rw [hrun] at h
        cases h
        exact undergoes_of_not_blamesTool (Host.Tries.refl host) id _
      · rw [hrun] at h
        cases h

/-! ## Transpiling -/

section Entries

variable {shape : Shape} {s t : Run} {entry : Entry} {entries : List Entry}

theorem Produces.undergoes
    {file : GeneratedFile}
    (h : Produces (.tools configuration) configuration shape
      (configuration.plan.outputPath checkout) s entry file t) :
    Undergoes configuration checkout s.host t.host [.transpile entry] none := by
  cases h with
  | intro supported transpiled present readable =>
      exact undergoes_of_success (.transpile entry) (Task.tries_of_run transpiled)

/-- An entry whose output is missing or cannot be read has been transpiled all the same. -/
theorem FailsAt.undergoes
    (hsinks : s.host.sinks.Working)
    (h : FailsAt (.tools configuration) configuration shape
      (configuration.plan.outputPath checkout) s entry failure t) :
    Undergoes configuration checkout s.host t.host [.transpile entry] (some failure) := by
  have hdone {after : Host}
      (h : (Stages.tools configuration).transpile
        (taskOf configuration (configuration.plan.outputPath checkout) entry) s.host =
          .ok () after) :
      Undergoes configuration checkout s.host after [.transpile entry] none :=
    undergoes_of_success (.transpile entry) (Task.tries_of_run h)
  cases h with
  | unsupported unsupported => exact undergoes_of_not_blamesTool (Host.Tries.refl _) id _
  | transpile supported failed =>
      obtain ⟨result, error, rfl, htries, hfailed⟩ := Task.tries_of_run_error hsinks failed
      exact undergoes_of_blames (.transpile entry) htries (.transpile hfailed)
  | absent supported transpiled absent =>
      exact (hdone transpiled).append (undergoes_of_not_blamesTool (Host.Tries.refl _) id [])
  | unreadable supported transpiled present unreadable =>
      exact (hdone transpiled).append (undergoes_of_not_blamesTool (Host.Tries.refl _) id [])

theorem Completed.undergoes
    {files : List GeneratedFile}
    (h : Completed (.tools configuration) configuration shape
      (configuration.plan.outputPath checkout) s entries files t) :
    Undergoes configuration checkout s.host t.host (entries.map Job.transpile) none := by
  induction h with
  | nil s => exact undergoes_nil (Host.Tries.refl s.host)
  | cons first others ih => exact first.undergoes.append ih

end Entries

/-! ## Whole runs -/

section Runs

variable {matrix : Matrix} {s t : Run} {outcome : Option Failure}

theorem Prepares.undergoes
    {combined : Path} (h : Prepares (.tools configuration) configuration s checkout combined t) :
    combined = configuration.plan.outputPath checkout ∧
      Undergoes configuration checkout s.host t.host
        ([.clone] ++ ([.tryPatch, .applyPatch] ++ combiningJobs configuration.combiner)) none := by
  cases h with
  | intro fetch patch combine =>
      obtain ⟨hcombined, hjobs⟩ := undergoes_of_combine combine
      exact ⟨hcombined,
        (undergoes_of_fetch fetch).append ((undergoes_of_applyPatch patch).append hjobs)⟩

theorem FailsToPrepare.undergoes
    (h : FailsToPrepare (.tools configuration) configuration s failure t) :
    ∃ checkout, Undergoes configuration checkout s.host t.host
      ([.clone] ++ ([.tryPatch, .applyPatch] ++ combiningJobs configuration.combiner))
      (some failure) := by
  cases h with
  | fetch failed =>
      obtain ⟨checkout, hfails⟩ := undergoes_of_fetch_error failed
      exact ⟨checkout, hfails.weaken _⟩
  | patch fetch failed =>
      exact ⟨_, (undergoes_of_fetch fetch).append ((undergoes_of_applyPatch_error failed).weaken _)⟩
  | combine fetch patch failed =>
      exact ⟨_, (undergoes_of_fetch fetch).append
        ((undergoes_of_applyPatch patch).append (undergoes_of_combine_error failed))⟩

theorem jobs_eq (configuration : Configuration) (matrix : Matrix) :
    jobs configuration matrix =
      ([.clone] ++ ([.tryPatch, .applyPatch] ++ combiningJobs configuration.combiner)) ++
        matrix.entries.map Job.transpile := by
  rw [jobs, List.append_assoc, List.append_assoc]

theorem StopsAt.undergoes
    (hsinks : s.host.sinks.Working)
    (h : StopsAt (.tools configuration) configuration matrix s failure t) :
    ∃ checkout, Undergoes configuration checkout s.host t.host (jobs configuration matrix)
      (some failure) := by
  rw [jobs_eq]
  cases h with
  | preparing failed =>
      obtain ⟨checkout, hfails⟩ := failed.undergoes
      exact ⟨checkout, hfails.weaken _⟩
  | @entry checkout combined _ _ _ done rest entry _ _ prepared entries completed failed =>
      -- All jobs before this entry were done with success, and those behind it do not matter.
      obtain ⟨rfl, hprepared⟩ := prepared.undergoes
      have hdone := hprepared.append completed.undergoes
      have hfails := (failed.undergoes (hdone.working hsinks)).weaken (rest.map Job.transpile)
      rw [entries, List.map_append, ← List.append_assoc]
      exact ⟨checkout, hdone.append hfails⟩

theorem Returns.undergoes
    {combined : Path} {files : List GeneratedFile}
    (h : Returns (.tools configuration) configuration matrix s checkout combined files t) :
    Undergoes configuration checkout s.host t.host (jobs configuration matrix) none := by
  rw [jobs_eq]
  cases h with
  | intro prepared completed =>
      obtain ⟨rfl, hprepared⟩ := prepared.undergoes
      exact hprepared.append completed.undergoes

/-- Whatever a run goes through, it undergoes its jobs, with success or up to its failure. -/
theorem Goes.undergoes
    (hsinks : s.host.sinks.Working)
    (h : Goes (.tools configuration) configuration matrix s outcome t) :
    ∃ checkout, Undergoes configuration checkout s.host t.host (jobs configuration matrix)
      outcome := by
  cases h with
  | empty hentries =>
      exact ⟨⟨⟨""⟩⟩, undergoes_of_not_blamesTool (Host.Tries.refl _) id _⟩
  | directory hentries hdirectory =>
      have hquiet := (Host.changesFilesOnly_makeDirectories _).of_error hdirectory
      exact ⟨⟨⟨""⟩⟩, undergoes_of_not_blamesTool hquiet.tries id _⟩
  | stops hentries hdirectory hstops =>
      have hquiet := (Host.changesFilesOnly_makeDirectories _).of_ok hdirectory
      obtain ⟨checkout, hjobs⟩ := hstops.undergoes (hquiet.tries.sinks hsinks)
      exact ⟨checkout, (undergoes_nil hquiet.tries).append hjobs⟩
  | @returns _ checkout _ _ _ hentries hdirectory hreturns =>
      have hquiet := (Host.changesFilesOnly_makeDirectories _).of_ok hdirectory
      exact ⟨checkout, (undergoes_nil hquiet.tries).append hreturns.undergoes⟩

end Runs

end Generation

end CrossGen
