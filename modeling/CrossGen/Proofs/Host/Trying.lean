import CrossGen.Host.Temporary
import CrossGen.Host.Tool
import CrossGen.Proofs.Host.Launching

/-!
# Which commands are tried

A host keeps a record of the commands that were tried on it.  Most actions try none: they look at
the files or change them, and leave everything else as it is.  An action that runs a tool tries one
command, and succeeds exactly if the tool does.
-/

namespace CrossGen

/-! ## Actions that change files only -/

namespace Host

variable {ε δ α β : Type}

/-- The second host is the first one with other files. -/
def SameButFiles (before after : Host) : Prop :=
  after = { before with files := after.files }

theorem SameButFiles.refl (host : Host) : host.SameButFiles host :=
  rfl

theorem SameButFiles.trans
    {first second third : Host} (h : first.SameButFiles second) (h' : second.SameButFiles third) :
    first.SameButFiles third := by
  unfold SameButFiles at h h' ⊢
  rw [h', h]

/-- The host that an action leaves, whether it succeeds or fails. -/
def left : EStateM.Result ε Host α → Host
  | .ok _ host => host
  | .error _ host => host

/-- Whatever comes of it, the action changes nothing but files. -/
def ChangesFilesOnly (act : Act ε α) : Prop :=
  ∀ host : Host, host.SameButFiles (left (act host))

theorem ChangesFilesOnly.of_ok
    {act : Act ε α} (h : ChangesFilesOnly act) {host next : Host} {a : α}
    (hact : act host = .ok a next) :
    host.SameButFiles next := by
  have hleft := h host
  rw [hact] at hleft
  exact hleft

theorem ChangesFilesOnly.of_error
    {act : Act ε α} (h : ChangesFilesOnly act) {host next : Host} {e : ε}
    (hact : act host = .error e next) :
    host.SameButFiles next := by
  have hleft := h host
  rw [hact] at hleft
  exact hleft

theorem changesFilesOnly_pure (a : α) : ChangesFilesOnly (pure a : Act ε α) :=
  fun host => SameButFiles.refl host

theorem changesFilesOnly_throw (e : ε) : ChangesFilesOnly (throw e : Act ε α) :=
  fun host => SameButFiles.refl host

theorem changesFilesOnly_get : ChangesFilesOnly (get : Act ε Host) :=
  fun host => SameButFiles.refl host

theorem ChangesFilesOnly.bind
    {act : Act ε α} {next : α → Act ε β} (hact : ChangesFilesOnly act)
    (hnext : ∀ a, ChangesFilesOnly (next a)) :
    ChangesFilesOnly (act >>= next) := by
  intro host
  cases hfirst : act host with
  | ok a middle =>
      rw [bind_of_ok hfirst]
      exact (hact.of_ok hfirst).trans (hnext a middle)
  | error e last =>
      rw [bind_of_error hfirst]
      exact hact.of_error hfirst

theorem changesFilesOnly_failAs {act : Act ε α} (h : ChangesFilesOnly act) (f : ε → δ) :
    ChangesFilesOnly (failAs f act) := by
  intro host
  cases hact : act host with
  | ok a next =>
      rw [failAs_of_ok hact]
      exact h.of_ok hact
  | error e next =>
      rw [failAs_of_error hact]
      exact h.of_error hact

theorem changesFilesOnly_ofExcept (answer : Except ε α) : ChangesFilesOnly (ofExcept answer) := by
  cases answer with
  | ok a => exact changesFilesOnly_pure a
  | error e => exact changesFilesOnly_throw e

theorem changesFilesOnly_isFile (p : Path) : ChangesFilesOnly (isFile p : Act ε Bool) :=
  changesFilesOnly_get.bind fun _ => changesFilesOnly_pure _

theorem changesFilesOnly_readFile (p : Path) : ChangesFilesOnly (readFile p) :=
  changesFilesOnly_get.bind fun _ => changesFilesOnly_ofExcept _

/-- A request that gives other files, or is refused, changes nothing else. -/
theorem changesFilesOnly_of_request (request : Host → Except IoError FileSystem) :
    ChangesFilesOnly (do
      let host ← get
      let files ← ofExcept (request host)
      set { host with files := files } : Act IoError Unit) := by
  intro host
  rw [bind_get]
  cases request host with
  | ok files => rfl
  | error e => rfl

theorem changesFilesOnly_makeDirectory (p : Path) : ChangesFilesOnly (makeDirectory p) :=
  changesFilesOnly_of_request fun host => host.files.makeDirectory host.directory p

theorem changesFilesOnly_makeChain (paths : List Path) : ChangesFilesOnly (makeChain paths) := by
  induction paths with
  | nil => exact changesFilesOnly_pure ()
  | cons p parents ih =>
      intro host
      have hmake := changesFilesOnly_makeDirectory p
      unfold makeChain
      cases hfirst : makeDirectory p host with
      | ok a next => exact hmake.of_ok hfirst
      | error e next =>
          have hnext := hmake.of_error hfirst
          dsimp only
          by_cases hmissing : e = .notFound
          · rw [if_pos hmissing]
            cases hchain : makeChain parents next with
            | error cause last => exact hnext.trans (ih.of_error hchain)
            | ok a last =>
                have hlast := hnext.trans (ih.of_ok hchain)
                cases a
                dsimp only
                cases hsecond : makeDirectory p last with
                | ok b final => exact hlast.trans (hmake.of_ok hsecond)
                | error cause final =>
                    have hfinal := hlast.trans (hmake.of_error hsecond)
                    dsimp only
                    split
                    · exact hfinal
                    · exact hfinal
          · rw [if_neg hmissing]
            split
            · exact hnext
            · exact hnext

theorem changesFilesOnly_makeDirectories (p : Path) : ChangesFilesOnly (makeDirectories p) :=
  changesFilesOnly_makeChain p.ancestors

theorem changesFilesOnly_makeTemporary (parent : Path) (base : String) :
    ChangesFilesOnly (makeTemporary parent base) :=
  changesFilesOnly_get.bind fun _ =>
    (changesFilesOnly_failAs (changesFilesOnly_makeDirectory _) _).bind fun _ =>
      changesFilesOnly_pure _

end Host

/-! ## Attempts -/

/-- Every piece that is offered to the sinks is taken. -/
def Sinks.Working (sinks : Sinks) : Prop :=
  ∀ n, sinks.out.behaviour n = .accepted ∧ sinks.err.behaviour n = .accepted

theorem Sinks.working_accepting : Sinks.Working ⟨.accepting, .accepting⟩ :=
  fun _ => ⟨rfl, rfl⟩

namespace Attempt

def Succeeded (attempt : Attempt) : Prop :=
  attempt.result = .ok (.exited 0)

/-- The error says how the attempt failed: that the program could not be started, and why, or that
it ended in another way than with the status 0. -/
inductive FailedWith : Attempt → ToolError → Prop
  | notStarted {command : Command} {program : String} {cause : IoError} :
      FailedWith ⟨command, .error cause⟩ (.notStarted program cause)
  | failed {command : Command} {program : String} {ending : Ending} (h : ending ≠ .exited 0) :
      FailedWith ⟨command, .ok ending⟩ (.failed program ending.status?)

theorem FailedWith.not_succeeded {attempt : Attempt} {e : ToolError} (h : attempt.FailedWith e) :
    ¬attempt.Succeeded := by
  unfold Succeeded
  intro hsucceeded
  cases h with
  | notStarted => cases hsucceeded
  | failed hending => exact hending (Except.ok.inj hsucceeded)

end Attempt

theorem Ending.isSuccess_iff {ending : Ending} : ending.isSuccess = true ↔ ending = .exited 0 := by
  unfold Ending.isSuccess
  exact beq_iff_eq

namespace Host

/-- Between two hosts the given commands were tried and no others, and sinks that work still do. -/
structure Tries (before after : Host) (tried : List Attempt) : Prop where
  attempts : after.attempts = before.attempts ++ tried
  sinks : before.sinks.Working → after.sinks.Working

theorem Tries.refl (host : Host) : host.Tries host [] :=
  ⟨(List.append_nil _).symm, id⟩

theorem Tries.trans
    {first second third : Host} {tried others : List Attempt} (h : first.Tries second tried)
    (h' : second.Tries third others) :
    first.Tries third (tried ++ others) := by
  constructor
  · rw [h'.attempts, h.attempts, List.append_assoc]
  · intro hsinks
    exact h'.sinks (h.sinks hsinks)

theorem SameButFiles.tries {before after : Host} (h : before.SameButFiles after) :
    before.Tries after [] := by
  unfold SameButFiles at h
  rw [h]
  exact ⟨(List.append_nil _).symm, id⟩

variable {command : Command} {host next : Host}

theorem tries_of_execute
    {isRead : Bool} {outcome : Outcome} (h : execute isRead command host = .ok outcome next) :
    host.Tries next [⟨command, .ok outcome.ending⟩] := by
  unfold execute at h
  split at h
  · cases h
  · cases h
    exact ⟨rfl, id⟩

theorem tries_of_execute_error
    {isRead : Bool} {cause : IoError} (h : execute isRead command host = .error cause next) :
    host.Tries next [⟨command, .error cause⟩] := by
  unfold execute at h
  split at h
  · cases h
    exact ⟨rfl, id⟩
  · cases h

theorem tries_of_executeShown
    {shown : Stream → Bool} {ending : Ending}
    (h : executeShown shown command host = .ok ending next) :
    host.Tries next [⟨command, .ok ending⟩] := by
  obtain ⟨outcome, middle, hexecute, hrest⟩ := bind_eq_ok_iff.mp h
  have htries := tries_of_execute hexecute
  cases hrest
  exact ⟨htries.attempts, htries.sinks⟩

theorem tries_of_executeShown_error
    {shown : Stream → Bool} {cause : IoError}
    (h : executeShown shown command host = .error cause next) :
    host.Tries next [⟨command, .error cause⟩] := by
  rcases bind_eq_error_iff.mp h with hexecute | ⟨outcome, middle, -, hrest⟩
  · exact tries_of_execute_error hexecute
  · cases hrest

/-- Whether it can be started or not, a plain command is tried once, and the answer says how it
ended. -/
theorem executeShown_plain
    (shown : Stream → Bool) (program : String) (args : List String) (host : Host) :
    ∃ next, host.Tries next [⟨.plain program args, host.endingOf program args⟩] ∧
      ((∃ ending, host.endingOf program args = .ok ending ∧
          executeShown shown (.plain program args) host = .ok ending next) ∨
        ∃ cause, host.endingOf program args = .error cause ∧
          executeShown shown (.plain program args) host = .error cause next) := by
  have hending := map_ending_launch_plain host program args
  cases hanswer : (host.launch false (.plain program args)).bind host.machine with
  | ok outcome =>
      rw [hanswer] at hending
      obtain ⟨next, hshown⟩ := executeShown_of_ok shown hanswer
      refine ⟨next, ?_, Or.inl ⟨outcome.ending, hending.symm, hshown⟩⟩
      rw [← hending]
      exact tries_of_executeShown hshown
  | error cause =>
      rw [hanswer] at hending
      obtain ⟨next, hshown⟩ := executeShown_of_error shown hanswer
      refine ⟨next, ?_, Or.inr ⟨cause, hending.symm, hshown⟩⟩
      rw [← hending]
      exact tries_of_executeShown_error hshown

/-! ## Tools -/

theorem checkEnding_eq_ok_iff {ending : Ending} :
    checkEnding command ending = .ok () ↔ ending = .exited 0 := by
  unfold checkEnding
  by_cases hsuccess : ending.isSuccess = true
  · rw [if_pos hsuccess]
    exact iff_of_true rfl (Ending.isSuccess_iff.mp hsuccess)
  · rw [if_neg hsuccess]
    exact iff_of_false nofun fun hending => hsuccess (Ending.isSuccess_iff.mpr hending)

theorem failedWith_of_checkEnding
    {ending : Ending} {e : ToolError} (h : checkEnding command ending = .error e)
    (other : Command) :
    Attempt.FailedWith ⟨other, .ok ending⟩ e := by
  unfold checkEnding at h
  by_cases hsuccess : ending.isSuccess = true
  · rw [if_pos hsuccess] at h
    cases h
  · rw [if_neg hsuccess] at h
    cases h
    exact .failed fun hending => hsuccess (Ending.isSuccess_iff.mpr hending)

theorem tries_of_runTool (h : runTool command host = .ok () next) :
    host.Tries next [⟨command, .ok (.exited 0)⟩] := by
  obtain ⟨ending, middle, hshown, hcheck⟩ := bind_eq_ok_iff.mp h
  obtain ⟨hending, rfl⟩ := ofExcept_eq_ok_iff.mp hcheck
  rw [← checkEnding_eq_ok_iff.mp hending]
  exact tries_of_executeShown (failAs_eq_ok_iff.mp hshown)

theorem tries_of_runTool_error {e : ToolError} (h : runTool command host = .error e next) :
    ∃ result, host.Tries next [⟨command, result⟩] ∧ Attempt.FailedWith ⟨command, result⟩ e := by
  rcases bind_eq_error_iff.mp h with hshown | ⟨ending, middle, hshown, hcheck⟩
  · obtain ⟨cause, hexecute, rfl⟩ := failAs_eq_error_iff.mp hshown
    exact ⟨_, tries_of_executeShown_error hexecute, .notStarted⟩
  · obtain ⟨hending, rfl⟩ := ofExcept_eq_error_iff.mp hcheck
    exact ⟨_, tries_of_executeShown (failAs_eq_ok_iff.mp hshown),
      failedWith_of_checkEnding hending command⟩

end Host

end CrossGen
