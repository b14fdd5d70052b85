import CrossGen.Proofs.Generation.Course

/-!
# The first failure ends the run

Whatever the stages do, a run calls them in a fixed order and stops at the first point that fails,
with the error of that point.  It returns a report exactly if no point fails, and the report has
one file for each entry of the matrix, in order.
-/

namespace CrossGen.Generation

variable (stages : Stages) (configuration : Configuration) (matrix : Matrix)

/-! ## Preparing the sources -/

def preparation (configuration : Configuration) (checkout : Checkout) : List Call :=
  [.fetch configuration.release, .patch checkout configuration.patch,
    .combine checkout configuration.plan]

/-- The sources are fetched, patched and combined, and what one stage gives is handed on to the
next. -/
inductive Prepares (s : Run) : Checkout → Path → Run → Prop
  | intro {checkout : Checkout} {combined : Path} {fetched patched host : Host}
      (fetch : stages.fetch configuration.release s.host = .ok checkout fetched)
      (patch : stages.patch checkout configuration.patch fetched = .ok () patched)
      (combine : stages.combine checkout configuration.plan patched = .ok combined host) :
      Prepares s checkout combined ⟨host, s.calls ++ preparation configuration checkout⟩

/-- One of the first three stages fails. -/
inductive FailsToPrepare (s : Run) : Failure → Run → Prop
  | fetch {failure : Failure} {host : Host}
      (failed : stages.fetch configuration.release s.host = .error failure host) :
      FailsToPrepare s failure ⟨host, s.calls ++ [.fetch configuration.release]⟩
  | patch {checkout : Checkout} {fetched host : Host} {failure : Failure}
      (fetch : stages.fetch configuration.release s.host = .ok checkout fetched)
      (failed : stages.patch checkout configuration.patch fetched = .error failure host) :
      FailsToPrepare s failure
        ⟨host, s.calls ++ [.fetch configuration.release, .patch checkout configuration.patch]⟩
  | combine {checkout : Checkout} {fetched patched host : Host} {failure : Failure}
      (fetch : stages.fetch configuration.release s.host = .ok checkout fetched)
      (patch : stages.patch checkout configuration.patch fetched = .ok () patched)
      (failed : stages.combine checkout configuration.plan patched = .error failure host) :
      FailsToPrepare s failure ⟨host, s.calls ++ preparation configuration checkout⟩

variable {stages configuration}

theorem Prepares.prepare_eq
    {s t : Run} {checkout : Checkout} {combined : Path}
    (h : Prepares stages configuration s checkout combined t) :
    prepare stages configuration s = .ok (checkout, combined) t := by
  cases h with
  | intro fetch patch combine =>
      rw [prepare, bind_of_ok (call_of_ok fetch _), bind_of_ok (call_of_ok patch _),
        bind_of_ok (call_of_ok combine _)]
      simp [preparation, pure, EStateM.pure]

theorem FailsToPrepare.prepare_eq
    {s t : Run} {failure : Failure}
    (h : FailsToPrepare stages configuration s failure t) :
    prepare stages configuration s = .error failure t := by
  cases h with
  | fetch failed => rw [prepare, bind_of_error (call_of_error failed _)]
  | patch fetch failed =>
      rw [prepare, bind_of_ok (call_of_ok fetch _), bind_of_error (call_of_error failed _)]
      simp
  | combine fetch patch failed =>
      rw [prepare, bind_of_ok (call_of_ok fetch _), bind_of_ok (call_of_ok patch _),
        bind_of_error (call_of_error failed _)]
      simp [preparation]

theorem prepares_or_failsToPrepare (s : Run) :
    (∃ checkout combined t, Prepares stages configuration s checkout combined t) ∨
      ∃ failure t, FailsToPrepare stages configuration s failure t := by
  cases hfetch : stages.fetch configuration.release s.host with
  | error failure host => exact .inr ⟨_, _, .fetch hfetch⟩
  | ok checkout fetched =>
      cases hpatch : stages.patch checkout configuration.patch fetched with
      | error failure host => exact .inr ⟨_, _, .patch hfetch hpatch⟩
      | ok done patched =>
          cases hcombine : stages.combine checkout configuration.plan patched with
          | error failure host => exact .inr ⟨_, _, .combine hfetch hpatch hcombine⟩
          | ok combined host => exact .inl ⟨_, _, _, .intro hfetch hpatch hcombine⟩

/-! ## Where a run stops -/

variable (stages configuration)

/-- A run stops before its first entry, or at an entry before which all were produced. -/
inductive StopsAt (s : Run) : Failure → Run → Prop
  | preparing {failure : Failure} {t : Run}
      (failed : FailsToPrepare stages configuration s failure t) :
      StopsAt s failure t
  | entry {checkout : Checkout} {combined : Path} {t u v : Run} {done rest : List Entry}
      {entry : Entry} {files : List GeneratedFile} {failure : Failure}
      (prepared : Prepares stages configuration s checkout combined t)
      (entries : matrix.entries = done ++ entry :: rest)
      (completed : Completed stages configuration matrix.shape combined t done files u)
      (failed : FailsAt stages configuration matrix.shape combined u entry failure v) :
      StopsAt s failure v

/-- A run in which every stage succeeds on every entry. -/
inductive Returns (s : Run) : Checkout → Path → List GeneratedFile → Run → Prop
  | intro {checkout : Checkout} {combined : Path} {t u : Run} {files : List GeneratedFile}
      (prepared : Prepares stages configuration s checkout combined t)
      (completed :
        Completed stages configuration matrix.shape combined t matrix.entries files u) :
      Returns s checkout combined files u

variable {stages configuration matrix}

variable (stages configuration matrix) in
theorem returns_or_stopsAt (s : Run) :
    (∃ checkout combined files t,
      Returns stages configuration matrix s checkout combined files t) ∨
      ∃ failure t, StopsAt stages configuration matrix s failure t := by
  rcases prepares_or_failsToPrepare s with
    ⟨checkout, combined, t, hprepared⟩ | ⟨failure, t, hfailed⟩
  · rcases completed_or_failsAt matrix.entries t with ⟨files, u, hcompleted⟩ |
      ⟨done, entry, rest, files, u, failure, v, hentries, hcompleted, hfailed⟩
    · exact .inl ⟨checkout, combined, files, u, .intro hprepared hcompleted⟩
    · exact .inr ⟨failure, v, .entry hprepared hentries hcompleted hfailed⟩
  · exact .inr ⟨failure, t, .preparing hfailed⟩

/-! ## The program -/

theorem run_of_no_entries
    (h : matrix.entries = []) (s : Run) :
    run stages configuration matrix s = .error (.configuration "no targets resolved") s := by
  rw [run, h]
  rfl

theorem run_of_entries
    (h : matrix.entries ≠ []) (s : Run) :
    run stages configuration matrix s =
      (do
        onHost (Host.failAs .io (Host.makeDirectories configuration.output))
        let (checkout, combined) ← prepare stages configuration
        let files ← produceAll stages configuration matrix.shape combined matrix.entries
        let ended := (← get).host.clock
        return ⟨matrix.shape, checkout.root, combined, files, ended - s.host.clock⟩ :
          Step Failure Report) s := by
  have hsome : matrix.entries.isEmpty = false := by
    rw [List.isEmpty_eq_false_iff]
    exact h
  rw [run, hsome]
  rfl

theorem run_of_no_directory
    (h : matrix.entries ≠ []) {s : Run} {e : IoError} {host : Host}
    (hdirectory : Host.makeDirectories configuration.output s.host = .error e host) :
    run stages configuration matrix s = .error (.io e) ⟨host, s.calls⟩ := by
  rw [run_of_entries h, bind_of_error (onHost_of_error (Host.failAs_of_error hdirectory _))]

theorem Returns.run_eq
    (h : matrix.entries ≠ []) {s t : Run} {host : Host} {checkout : Checkout} {combined : Path}
    {files : List GeneratedFile}
    (hdirectory : Host.makeDirectories configuration.output s.host = .ok () host)
    (hreturns : Returns stages configuration matrix ⟨host, s.calls⟩ checkout combined files t) :
    run stages configuration matrix s =
      .ok ⟨matrix.shape, checkout.root, combined, files, t.host.clock - s.host.clock⟩ t := by
  cases hreturns with
  | intro prepared completed =>
      rw [run_of_entries h, bind_of_ok (onHost_of_ok (Host.failAs_of_ok hdirectory _)),
        bind_of_ok prepared.prepare_eq]
      dsimp only
      rw [bind_of_ok completed.produceAll_eq]
      rfl

theorem StopsAt.run_eq
    (h : matrix.entries ≠ []) {s t : Run} {host : Host} {failure : Failure}
    (hdirectory : Host.makeDirectories configuration.output s.host = .ok () host)
    (hstops : StopsAt stages configuration matrix ⟨host, s.calls⟩ failure t) :
    run stages configuration matrix s = .error failure t := by
  rw [run_of_entries h, bind_of_ok (onHost_of_ok (Host.failAs_of_ok hdirectory _))]
  cases hstops with
  | preparing failed => rw [bind_of_error failed.prepare_eq]
  | entry prepared entries completed failed =>
      rw [bind_of_ok prepared.prepare_eq]
      dsimp only
      rw [entries, bind_of_error (failed.produceAll_append completed _)]

theorem run_eq_error_iff
    (h : matrix.entries ≠ []) {s t : Run} {host : Host} {failure : Failure}
    (hdirectory : Host.makeDirectories configuration.output s.host = .ok () host) :
    run stages configuration matrix s = .error failure t ↔
      StopsAt stages configuration matrix ⟨host, s.calls⟩ failure t := by
  constructor
  · intro hrun
    rcases returns_or_stopsAt stages configuration matrix ⟨host, s.calls⟩ with
      ⟨checkout, combined, files, u, hreturns⟩ | ⟨met, u, hstops⟩
    · rw [hreturns.run_eq h hdirectory] at hrun
      cases hrun
    · rw [hstops.run_eq h hdirectory] at hrun
      cases hrun
      exact hstops
  · intro hstops
    exact hstops.run_eq h hdirectory

theorem run_eq_ok_iff
    (h : matrix.entries ≠ []) {s t : Run} {host : Host} {report : Report}
    (hdirectory : Host.makeDirectories configuration.output s.host = .ok () host) :
    run stages configuration matrix s = .ok report t ↔
      ∃ checkout combined files,
        Returns stages configuration matrix ⟨host, s.calls⟩ checkout combined files t ∧
        report = ⟨matrix.shape, checkout.root, combined, files,
          t.host.clock - s.host.clock⟩ := by
  constructor
  · intro hrun
    rcases returns_or_stopsAt stages configuration matrix ⟨host, s.calls⟩ with
      ⟨checkout, combined, files, u, hreturns⟩ | ⟨met, u, hstops⟩
    · rw [hreturns.run_eq h hdirectory] at hrun
      cases hrun
      exact ⟨checkout, combined, files, hreturns, rfl⟩
    · rw [hstops.run_eq h hdirectory] at hrun
      cases hrun
  · rintro ⟨checkout, combined, files, hreturns, rfl⟩
    exact hreturns.run_eq h hdirectory

/-! ## The order of the calls -/

def planned (configuration : Configuration) (matrix : Matrix) (checkout : Checkout)
    (combined : Path) : List Call :=
  preparation configuration checkout ++ matrix.entries.map (callOf configuration combined)

/-- The checkout is the one that is fetched, if one is, and the combined file is the one that the
sources are combined into, if they are. -/
def HandsOn (stages : Stages) (configuration : Configuration) (host : Host)
    (checkout : Checkout) (combined : Path) : Prop :=
  ∀ found fetched, stages.fetch configuration.release host = .ok found fetched →
    found = checkout ∧
    ∀ patched, stages.patch checkout configuration.patch fetched = .ok () patched →
      ∀ file last, stages.combine checkout configuration.plan patched = .ok file last →
        file = combined

theorem Completed.calls_eq
    {s t : Run} {shape : Shape} {combined : Path} {entries : List Entry}
    {files : List GeneratedFile}
    (h : Completed stages configuration shape combined s entries files t) :
    t.calls = s.calls ++ entries.map (callOf configuration combined) := by
  induction h with
  | nil s => simp
  | cons first others ih =>
      cases first with
      | intro supported transpiled present readable => simp [ih]

theorem FailsAt.calls_eq
    {s t : Run} {shape : Shape} {combined : Path} {entry : Entry} {failure : Failure}
    (h : FailsAt stages configuration shape combined s entry failure t) :
    ∃ made, made <+: [callOf configuration combined entry] ∧ t.calls = s.calls ++ made := by
  cases h with
  | unsupported unsupported => exact ⟨[], List.nil_prefix, by simp⟩
  | transpile supported failed => exact ⟨_, List.prefix_rfl, rfl⟩
  | absent supported transpiled absent => exact ⟨_, List.prefix_rfl, rfl⟩
  | unreadable supported transpiled present unreadable => exact ⟨_, List.prefix_rfl, rfl⟩

theorem Completed.files_eq
    {s t : Run} {shape : Shape} {combined : Path} {entries : List Entry}
    {files : List GeneratedFile}
    (h : Completed stages configuration shape combined s entries files t) :
    files.map (fun file => (file.target, file.compiler, file.path)) =
      entries.map (fun entry => (entry.target, entry.compiler, outputOf configuration entry)) := by
  induction h with
  | nil s => rfl
  | cons first others ih =>
      cases first with
      | intro supported transpiled present readable => simp [ih]

theorem Prepares.handsOn
    {s t : Run} {checkout : Checkout} {combined : Path}
    (h : Prepares stages configuration s checkout combined t) :
    HandsOn stages configuration s.host checkout combined := by
  cases h with
  | intro fetch patch combine =>
      intro found fetched hfetch
      rw [fetch] at hfetch
      cases hfetch
      refine ⟨rfl, ?_⟩
      intro patched hpatch file last hcombine
      rw [patch] at hpatch
      cases hpatch
      rw [combine] at hcombine
      cases hcombine
      rfl

theorem Prepares.calls_eq
    {s t : Run} {checkout : Checkout} {combined : Path}
    (h : Prepares stages configuration s checkout combined t) :
    t.calls = s.calls ++ preparation configuration checkout := by
  cases h with
  | intro fetch patch combine => rfl

theorem FailsToPrepare.exists_handsOn
    {s t : Run} {failure : Failure} (h : FailsToPrepare stages configuration s failure t) :
    ∃ checkout made, (∀ combined, HandsOn stages configuration s.host checkout combined) ∧
      made <+: preparation configuration checkout ∧ t.calls = s.calls ++ made := by
  cases h with
  | fetch failed =>
      refine ⟨⟨⟨""⟩⟩, _, ?_, ⟨_, rfl⟩, rfl⟩
      intro combined found fetched hfetch
      rw [failed] at hfetch
      cases hfetch
  | @patch checkout _ _ _ fetch failed =>
      refine ⟨checkout, _, ?_, ⟨_, rfl⟩, rfl⟩
      intro combined found fetched hfetch
      rw [fetch] at hfetch
      cases hfetch
      refine ⟨rfl, ?_⟩
      intro patched hpatch
      rw [failed] at hpatch
      cases hpatch
  | @combine checkout _ _ _ _ fetch patch failed =>
      refine ⟨checkout, _, ?_, List.prefix_rfl, rfl⟩
      intro combined found fetched hfetch
      rw [fetch] at hfetch
      cases hfetch
      refine ⟨rfl, ?_⟩
      intro patched hpatch file last hcombine
      rw [patch] at hpatch
      cases hpatch
      rw [failed] at hcombine
      cases hcombine

/-- A run that has come to an entry has called the beginning of what was planned. -/
theorem FailsAt.exists_planned
    {s t u v : Run} {checkout : Checkout} {combined : Path} {done rest : List Entry}
    {entry : Entry} {files : List GeneratedFile} {failure : Failure}
    (h : FailsAt stages configuration matrix.shape combined u entry failure v)
    (prepared : Prepares stages configuration s checkout combined t)
    (entries : matrix.entries = done ++ entry :: rest)
    (completed : Completed stages configuration matrix.shape combined t done files u) :
    ∃ made, made <+: planned configuration matrix checkout combined ∧
      v.calls = s.calls ++ made := by
  obtain ⟨made, hmade, hcalls⟩ := h.calls_eq
  refine ⟨preparation configuration checkout ++ (done.map (callOf configuration combined) ++ made),
    ?_, ?_⟩
  · rw [planned, entries, List.map_append, List.map_cons, List.prefix_append_right_inj,
      List.prefix_append_right_inj]
    exact hmade.trans (List.prefix_append [callOf configuration combined entry] _)
  · rw [hcalls, completed.calls_eq, prepared.calls_eq, List.append_assoc, List.append_assoc]

/-- What a run has called when it stops is the beginning of what was planned. -/
theorem StopsAt.exists_handsOn
    {s t : Run} {failure : Failure} (h : StopsAt stages configuration matrix s failure t) :
    ∃ checkout combined made, HandsOn stages configuration s.host checkout combined ∧
      made <+: planned configuration matrix checkout combined ∧
      t.calls = s.calls ++ made := by
  cases h with
  | preparing failed =>
      obtain ⟨checkout, made, hhands, hmade, hcalls⟩ := failed.exists_handsOn
      exact ⟨checkout, ⟨""⟩, made, hhands _, hmade.trans (List.prefix_append _ _), hcalls⟩
  | entry prepared entries completed failed =>
      obtain ⟨made, hmade, hcalls⟩ := failed.exists_planned prepared entries completed
      exact ⟨_, _, made, prepared.handsOn, hmade, hcalls⟩

theorem Returns.calls_eq
    {s t : Run} {checkout : Checkout} {combined : Path} {files : List GeneratedFile}
    (h : Returns stages configuration matrix s checkout combined files t) :
    HandsOn stages configuration s.host checkout combined ∧
      t.calls = s.calls ++ planned configuration matrix checkout combined := by
  cases h with
  | intro prepared completed =>
      refine ⟨prepared.handsOn, ?_⟩
      rw [completed.calls_eq, prepared.calls_eq, planned, List.append_assoc]

/-! ## Every run -/

variable (stages configuration matrix)

/-- How a run from `start` goes, whatever the stages do. -/
structure StopsAtFirstFailure (start : Run) : Prop where
  /-- Without entries it fails before it does anything. -/
  empty : matrix.entries = [] →
    run stages configuration matrix start = .error (.configuration "no targets resolved") start
  /-- Without a directory for its output it fails before it calls any stage. -/
  directory : matrix.entries ≠ [] → ∀ e host,
    Host.makeDirectories configuration.output start.host = .error e host →
      run stages configuration matrix start = .error (.io e) ⟨host, start.calls⟩
  /-- Otherwise it fails exactly if it stops at some point, with the failure of that point. -/
  stops : matrix.entries ≠ [] → ∀ host,
    Host.makeDirectories configuration.output start.host = .ok () host → ∀ failure t,
      (run stages configuration matrix start = .error failure t ↔
        StopsAt stages configuration matrix ⟨host, start.calls⟩ failure t)
  /-- It returns a report exactly if every stage succeeds on every entry. -/
  returns : matrix.entries ≠ [] → ∀ host,
    Host.makeDirectories configuration.output start.host = .ok () host → ∀ report t,
      (run stages configuration matrix start = .ok report t ↔
        ∃ checkout combined files,
          Returns stages configuration matrix ⟨host, start.calls⟩ checkout combined files t ∧
          report = ⟨matrix.shape, checkout.root, combined, files,
            t.host.clock - start.host.clock⟩)
  /-- The calls are the beginning of those that were planned, and all of them in a run that returns
  a report. -/
  calls : matrix.entries ≠ [] → ∀ host,
    Host.makeDirectories configuration.output start.host = .ok () host →
      ∃ checkout combined made, HandsOn stages configuration host checkout combined ∧
        made <+: planned configuration matrix checkout combined ∧
        (∀ failure t, run stages configuration matrix start = .error failure t →
          t.calls = start.calls ++ made) ∧
        ∀ report t, run stages configuration matrix start = .ok report t →
          made = planned configuration matrix checkout combined ∧
            t.calls = start.calls ++ made
  /-- A report has one file for each entry, in order. -/
  files : ∀ report t, run stages configuration matrix start = .ok report t →
    report.files.map (fun file => (file.target, file.compiler, file.path)) =
      matrix.entries.map (fun entry => (entry.target, entry.compiler, outputOf configuration entry))

/-- The file that the first entry of the matrix is generated into. -/
def generated : FileSystem :=
  ⟨[(⟨["gen"]⟩, .directory),
    (⟨["gen", "zstd_linux_amd64.go"]⟩, .file "package libzstd".toUTF8 false)]⟩

def willing : Stages where
  fetch := fun _ => pure ⟨⟨"/work"⟩⟩
  patch := fun _ _ => pure ()
  combine := fun _ _ => pure ⟨"/work/zstd.c"⟩
  transpile := fun _ => modify fun host => { host with files := generated }

def linuxEntry : Entry := ⟨⟨.linux, "amd64"⟩, some "gcc"⟩

def windowsEntry : Entry := ⟨⟨.windows, "amd64"⟩, none⟩

def plainConfiguration : Configuration :=
  ⟨.pinned, ⟨"fix.patch"⟩, ⟨"gen"⟩, .native, .default, .default⟩

def hostWith (files : FileSystem) : Host :=
  .fresh files .root .empty fun _ => .error .notFound

end CrossGen.Generation
