import CrossGen.Proofs.Generation.FirstFailure

/-!
# How runs end

A run ends with a report or with a failure.  All that it goes through until then is told here in one
place: nothing at all, no directory for its output, a stage that fails, or all stages on all
entries.
-/

namespace CrossGen.Generation

variable (stages : Stages) (configuration : Configuration) (matrix : Matrix)

/-- How a run ends, with a failure or without one, and what it leaves. -/
inductive Ends (start : Run) : Option Failure → Run → Prop
  | returned {report : Report} {t : Run}
      (h : run stages configuration matrix start = .ok report t) :
      Ends start none t
  | failed {failure : Failure} {t : Run}
      (h : run stages configuration matrix start = .error failure t) :
      Ends start (some failure) t

/-- What a run goes through. -/
inductive Goes (start : Run) : Option Failure → Run → Prop
  | empty (hentries : matrix.entries = []) :
      Goes start (some (.configuration "no targets resolved")) start
  | directory {e : IoError} {host : Host} (hentries : matrix.entries ≠ [])
      (hdirectory : Host.makeDirectories configuration.output start.host = .error e host) :
      Goes start (some (.io e)) ⟨host, start.calls⟩
  | stops {host : Host} {failure : Failure} {t : Run} (hentries : matrix.entries ≠ [])
      (hdirectory : Host.makeDirectories configuration.output start.host = .ok () host)
      (hstops : StopsAt stages configuration matrix ⟨host, start.calls⟩ failure t) :
      Goes start (some failure) t
  | returns {host : Host} {checkout : Checkout} {combined : Path} {files : List GeneratedFile}
      {t : Run} (hentries : matrix.entries ≠ [])
      (hdirectory : Host.makeDirectories configuration.output start.host = .ok () host)
      (hreturns :
        Returns stages configuration matrix ⟨host, start.calls⟩ checkout combined files t) :
      Goes start none t

def outcome? (start : Run) : Option Failure :=
  error? (run stages configuration matrix start)

def remains (start : Run) : Run :=
  match run stages configuration matrix start with
  | .ok _ t => t
  | .error _ t => t

/-- Every run ends. -/
theorem ends_outcome? (start : Run) :
    Ends stages configuration matrix start (outcome? stages configuration matrix start)
      (remains stages configuration matrix start) := by
  unfold outcome? remains
  cases h : run stages configuration matrix start with
  | ok report t => exact .returned h
  | error failure t => exact .failed h

variable {stages configuration matrix}

/-- A run that returns a report has made its directory and gone through all its stages. -/
theorem exists_returns_of_run
    {start t : Run} {report : Report}
    (h : run stages configuration matrix start = .ok report t) :
    ∃ host checkout combined files, matrix.entries ≠ [] ∧
      Host.makeDirectories configuration.output start.host = .ok () host ∧
      Returns stages configuration matrix ⟨host, start.calls⟩ checkout combined files t ∧
      report = ⟨matrix.shape, checkout.root, combined, files, t.host.clock - start.host.clock⟩ := by
  by_cases hentries : matrix.entries = []
  · rw [run_of_no_entries hentries] at h
    cases h
  · cases hdirectory : Host.makeDirectories configuration.output start.host with
    | error e host =>
        rw [run_of_no_directory hentries hdirectory] at h
        cases h
    | ok done host =>
        obtain ⟨checkout, combined, files, hreturns, hreport⟩ :=
          (run_eq_ok_iff hentries hdirectory).mp h
        exact ⟨host, checkout, combined, files, hentries, rfl, hreturns, hreport⟩

theorem Ends.goes {start t : Run} {outcome : Option Failure}
    (h : Ends stages configuration matrix start outcome t) :
    Goes stages configuration matrix start outcome t := by
  cases h with
  | returned hreturned =>
      obtain ⟨host, checkout, combined, files, hentries, hdirectory, hreturns, -⟩ :=
        exists_returns_of_run hreturned
      exact .returns hentries hdirectory hreturns
  | failed hfailed =>
      by_cases hentries : matrix.entries = []
      · rw [run_of_no_entries hentries] at hfailed
        cases hfailed
        exact .empty hentries
      · cases hdirectory : Host.makeDirectories configuration.output start.host with
        | error e host =>
            rw [run_of_no_directory hentries hdirectory] at hfailed
            cases hfailed
            exact .directory hentries hdirectory
        | ok done host =>
            exact .stops hentries hdirectory ((run_eq_error_iff hentries hdirectory).mp hfailed)

end CrossGen.Generation
