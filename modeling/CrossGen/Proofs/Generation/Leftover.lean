import CrossGen.Proofs.Generation.FirstFailure

/-!
# Outputs that were there before

After each call of the transpiler a run makes sure that there is an output.  A call that reports
success without writing anything is therefore caught where nothing was before, and only there: an
output that was left by an earlier run, or by an earlier entry for the same target, is reported as if
it had been generated.
-/

namespace CrossGen.Generation

variable {stages : Stages} {configuration : Configuration} {shape : Shape} {combined : Path}

/-- The transpiler reports success for an entry and has neither made its output nor changed it. -/
structure SilentCall (stages : Stages) (configuration : Configuration) (shape : Shape)
    (combined : Path) (s : Run) (entry : Entry) (after : Host) : Prop where
  supported : shape.supports entry.target.system = true
  transpiled : stages.transpile (taskOf configuration combined entry) s.host = .ok () after
  presence : after.files.isFile after.directory (outputOf configuration entry) =
    s.host.files.isFile s.host.directory (outputOf configuration entry)
  content : after.files.read after.directory (outputOf configuration entry) =
    s.host.files.read s.host.directory (outputOf configuration entry)

/-! ## Silent calls -/

namespace SilentCall

variable {s : Run} {entry : Entry} {after : Host}

theorem failsAt_of_absent
    (h : SilentCall stages configuration shape combined s entry after)
    (habsent : s.host.files.isFile s.host.directory (outputOf configuration entry) = false) :
    FailsAt stages configuration shape combined s entry
      (.missingOutput entry.target.key (outputOf configuration entry))
      ⟨after, s.calls ++ [callOf configuration combined entry]⟩ :=
  .absent h.supported h.transpiled (h.presence.trans habsent)

/-- A leftover that cannot be read makes the entry fail, but for another reason. -/
theorem failsAt_of_unreadable
    (h : SilentCall stages configuration shape combined s entry after) {e : IoError}
    (hpresent : s.host.files.isFile s.host.directory (outputOf configuration entry) = true)
    (hread : s.host.files.read s.host.directory (outputOf configuration entry) = .error e) :
    FailsAt stages configuration shape combined s entry (.io e)
      ⟨after, s.calls ++ [callOf configuration combined entry]⟩ :=
  .unreadable h.supported h.transpiled (h.presence.trans hpresent) (h.content.trans hread)

/-- A leftover that can be read passes for the output. -/
theorem produces_of_leftover
    (h : SilentCall stages configuration shape combined s entry after) {content : ByteArray}
    (hpresent : s.host.files.isFile s.host.directory (outputOf configuration entry) = true)
    (hread : s.host.files.read s.host.directory (outputOf configuration entry) = .ok content) :
    Produces stages configuration shape combined s entry
      ⟨entry.target, outputOf configuration entry, content.size, Digest.sha256 content,
        entry.compiler⟩
      ⟨after, s.calls ++ [callOf configuration combined entry]⟩ :=
  .intro h.supported h.transpiled (h.presence.trans hpresent) (h.content.trans hread)

end SilentCall

/-! ## How a run goes on -/

variable {matrix : Matrix} {start : Run} {host : Host} {checkout : Checkout} {t u : Run}
variable {done rest : List Entry} {files : List GeneratedFile}

/-- After its first entries a run produces the others too, or fails at one of them. -/
theorem run_after_completed
    (hne : matrix.entries ≠ [])
    (hdirectory : Host.makeDirectories configuration.output start.host = .ok () host)
    (hentries : matrix.entries = done ++ rest)
    (hprepared : Prepares stages configuration ⟨host, start.calls⟩ checkout combined t)
    (hcompleted : Completed stages configuration matrix.shape combined t done files u) :
    (∃ others v, run stages configuration matrix start =
      .ok ⟨matrix.shape, checkout.root, combined, files ++ others,
        v.host.clock - start.host.clock⟩ v) ∨
    ∃ failure entry made v w, run stages configuration matrix start = .error failure w ∧
      v.calls = u.calls ++ made ∧
      FailsAt stages configuration matrix.shape combined v entry failure w := by
  rcases @completed_or_failsAt stages configuration matrix.shape combined rest u with
    ⟨others, v, hothers⟩ |
    ⟨following, entry, left, others, v, failure, w, rfl, hothers, hfails⟩
  · have hall := hcompleted.append hothers
    rw [← hentries] at hall
    exact .inl ⟨others, v, Returns.run_eq hne hdirectory (.intro hprepared hall)⟩
  · rw [← List.append_assoc] at hentries
    exact .inr ⟨failure, entry, _, v, w,
      StopsAt.run_eq hne hdirectory
        (.entry hprepared hentries (hcompleted.append hothers) hfails),
      hothers.calls_eq, hfails⟩

theorem FailsAt.length_calls_of_missingOutput
    {s : Run} {entry : Entry} {key : String} {path : Path}
    (h : FailsAt stages configuration shape combined s entry (.missingOutput key path) t) :
    s.calls.length < t.calls.length := by
  cases h with
  | absent supported transpiled absent => simp

/-! ## Runs with a silent call -/

variable {entry : Entry} {after : Host}

/-- The run goes on from a leftover that can be read, and reports it. -/
theorem SilentCall.run_of_leftover
    (hsilent : SilentCall stages configuration matrix.shape combined u entry after)
    (hdirectory : Host.makeDirectories configuration.output start.host = .ok () host)
    (hentries : matrix.entries = done ++ entry :: rest)
    (hprepared : Prepares stages configuration ⟨host, start.calls⟩ checkout combined t)
    (hcompleted : Completed stages configuration matrix.shape combined t done files u)
    {content : ByteArray}
    (hpresent : u.host.files.isFile u.host.directory (outputOf configuration entry) = true)
    (hread : u.host.files.read u.host.directory (outputOf configuration entry) = .ok content) :
    run stages configuration matrix start ≠
        .error (.missingOutput entry.target.key (outputOf configuration entry))
          ⟨after, u.calls ++ [callOf configuration combined entry]⟩ ∧
      ∀ report v, run stages configuration matrix start = .ok report v →
        report.files[done.length]? = some
          ⟨entry.target, outputOf configuration entry, content.size, Digest.sha256 content,
            entry.compiler⟩ := by
  have hne : matrix.entries ≠ [] := by
    rw [hentries]
    simp
  have hthrough := hcompleted.append
    (.cons (hsilent.produces_of_leftover hpresent hread) (.nil _))
  have hsplit : matrix.entries = (done ++ [entry]) ++ rest := by
    rw [hentries, List.append_assoc, List.singleton_append]
  rcases run_after_completed hne hdirectory hsplit hprepared hthrough with
    ⟨others, v, hok⟩ | ⟨failure, failing, made, v, w, herror, hcalls, hfails⟩
  · rw [hok]
    refine ⟨nofun, ?_⟩
    rintro report x ⟨⟩
    rw [← hcompleted.length_eq]
    simp
  · rw [herror]
    refine ⟨?_, nofun⟩
    intro hsame
    obtain ⟨rfl, rfl⟩ := EStateM.Result.error.inj hsame
    have hlength := hfails.length_calls_of_missingOutput
    rw [hcalls] at hlength
    simp at hlength

/-- A call that reports success without writing its output is caught exactly if nothing was at that
path when the call was made.  Otherwise a report of the run describes what was left there. -/
theorem silent_call_caught_iff_no_leftover
    (hdirectory : Host.makeDirectories configuration.output start.host = .ok () host)
    (hentries : matrix.entries = done ++ entry :: rest)
    (hprepared : Prepares stages configuration ⟨host, start.calls⟩ checkout combined t)
    (hcompleted : Completed stages configuration matrix.shape combined t done files u)
    (hsilent : SilentCall stages configuration matrix.shape combined u entry after) :
    (run stages configuration matrix start =
        .error (.missingOutput entry.target.key (outputOf configuration entry))
          ⟨after, u.calls ++ [callOf configuration combined entry]⟩ ↔
      u.host.files.isFile u.host.directory (outputOf configuration entry) = false) ∧
    ∀ report v, run stages configuration matrix start = .ok report v →
      ∃ content,
        u.host.files.read u.host.directory (outputOf configuration entry) = .ok content ∧
        report.files[done.length]? = some
          ⟨entry.target, outputOf configuration entry, content.size, Digest.sha256 content,
            entry.compiler⟩ := by
  have hne : matrix.entries ≠ [] := by
    rw [hentries]
    simp
  have hfails : ∀ {failure w},
      FailsAt stages configuration matrix.shape combined u entry failure w →
        run stages configuration matrix start = .error failure w := fun h =>
    StopsAt.run_eq hne hdirectory (.entry hprepared hentries hcompleted h)
  cases hpresent : u.host.files.isFile u.host.directory (outputOf configuration entry) with
  | false =>
      rw [hfails (hsilent.failsAt_of_absent hpresent)]
      exact ⟨iff_of_true rfl rfl, nofun⟩
  | true =>
      cases hread : u.host.files.read u.host.directory (outputOf configuration entry) with
      | error e =>
          rw [hfails (hsilent.failsAt_of_unreadable hpresent hread)]
          exact ⟨iff_of_false nofun nofun, nofun⟩
      | ok content =>
          obtain ⟨hrun, hreport⟩ :=
            hsilent.run_of_leftover hdirectory hentries hprepared hcompleted hpresent hread
          exact ⟨iff_of_false hrun nofun,
            fun report v hok => ⟨content, rfl, hreport report v hok⟩⟩

/-! ### A transpiler that does nothing -/

def idle : Stages :=
  { willing with transpile := fun _ => pure () }

/-- Where nothing was before, the transpiler that does nothing is caught. -/
theorem idle_run_is_caught_in_empty_directory :
    run idle plainConfiguration ⟨.matrix, [linuxEntry]⟩ ⟨hostWith ⟨[]⟩, []⟩ =
      .error (.missingOutput "linux_amd64" ⟨"gen/zstd_linux_amd64.go"⟩)
        ⟨hostWith ⟨[(⟨["gen"]⟩, .directory)]⟩,
          preparation plainConfiguration ⟨⟨"/work"⟩⟩ ++
            [callOf plainConfiguration ⟨"/work/zstd.c"⟩ linuxEntry]⟩ := by
  have hsilent : SilentCall idle plainConfiguration .matrix ⟨"/work/zstd.c"⟩
      ⟨hostWith ⟨[(⟨["gen"]⟩, .directory)]⟩, preparation plainConfiguration ⟨⟨"/work"⟩⟩⟩
      linuxEntry (hostWith ⟨[(⟨["gen"]⟩, .directory)]⟩) :=
    ⟨rfl, rfl, rfl, rfl⟩
  have hdirectory : Host.makeDirectories plainConfiguration.output (hostWith ⟨[]⟩) =
      .ok () (hostWith ⟨[(⟨["gen"]⟩, .directory)]⟩) := by rfl
  have hentries : (⟨.matrix, [linuxEntry]⟩ : Matrix).entries = [] ++ linuxEntry :: [] := rfl
  have hprepared : Prepares idle plainConfiguration ⟨hostWith ⟨[(⟨["gen"]⟩, .directory)]⟩, []⟩
      ⟨⟨"/work"⟩⟩ ⟨"/work/zstd.c"⟩ _ :=
    .intro rfl rfl rfl
  exact (silent_call_caught_iff_no_leftover hdirectory hentries hprepared (.nil _)
    hsilent).1.mpr (by rfl)

/-- Over an output of an earlier run it is not: the run returns a report of that output. -/
theorem idle_run_reports_leftover :
    (∀ task host, idle.transpile task host = .ok () host) ∧
      ∃ report t,
        run idle plainConfiguration ⟨.matrix, [linuxEntry]⟩ ⟨hostWith generated, []⟩ =
          .ok report t ∧
        t.host.files = generated ∧
        report.files.map GeneratedFile.path = [⟨"gen/zstd_linux_amd64.go"⟩] := by
  have hproduces : Produces idle plainConfiguration .matrix ⟨"/work/zstd.c"⟩
      ⟨hostWith generated, preparation plainConfiguration ⟨⟨"/work"⟩⟩⟩ linuxEntry _ _ :=
    .intro rfl rfl (by rfl) (by rfl)
  have hreturns : Returns idle plainConfiguration ⟨.matrix, [linuxEntry]⟩ ⟨hostWith generated, []⟩
      ⟨⟨"/work"⟩⟩ ⟨"/work/zstd.c"⟩ _ _ :=
    .intro (.intro rfl rfl rfl) (.cons hproduces (.nil _))
  have hdirectory : Host.makeDirectories plainConfiguration.output (hostWith generated) =
      .ok () (hostWith generated) := by rfl
  exact ⟨fun _ _ => rfl, _, _, hreturns.run_eq (by decide) hdirectory, rfl, rfl⟩

end CrossGen.Generation
