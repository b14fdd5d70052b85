import CrossGen.Proofs.Host.Action
import CrossGen.Proofs.Host.Walking

/-!
# Starting commands

What a command is launched with, and what becomes of the answer of the machine.
-/

namespace CrossGen

def Command.texts (command : Command) : List String :=
  command.program :: command.args ++ (command.directory.map Path.text).toList ++
    command.overrides.entries.map Prod.snd

theorem FileSystem.not_holdsNul_of_locate
    {files : FileSystem} {here loc : Location} {p : Path} (h : files.locate here p = .ok loc) :
    holdsNul p.text = false := by
  rw [Bool.eq_false_iff]
  intro hnul
  unfold holdsNul at hnul
  unfold locate start at h
  by_cases hempty : p.text.isEmpty = true
  · rw [if_pos hempty] at h
    cases h
  · rw [if_neg hempty, if_pos hnul] at h
    cases h

namespace Host

variable {host : Host} {command : Command}

/-- A command that asks for a directory is started in it, and with all else as the command and the
host have it. -/
theorem launch_eq_ok_iff_of_directory
    {isRead : Bool} {dir : Path} {launch : Launch} (hdir : command.directory = some dir) :
    host.launch isRead command = .ok launch ↔
      command.texts.any holdsNul = false ∧
      ∃ loc, host.files.locate host.directory dir = .ok loc ∧
        host.files.node? loc = some .directory ∧
        launch = ⟨command.program, command.args, loc,
          host.environment.setAll command.overrides.entries, host.files, host.attempts.length,
          isRead⟩ := by
  unfold Host.launch
  dsimp only
  rw [← Command.texts]
  by_cases hnul : command.texts.any holdsNul = true
  · rw [if_pos hnul, hnul]
    exact iff_of_false nofun (fun h => Bool.noConfusion h.1)
  · rw [if_neg hnul, and_iff_right (Bool.eq_false_iff.mpr hnul), hdir]
    dsimp only
    cases hlocate : host.files.locate host.directory dir with
    | error e => simp
    | ok loc =>
        by_cases hnode : host.files.node? loc = some .directory
        · simp [hnode, eq_comm]
        · simp [hnode]

/-- Wherever it is started, a command is started with its own words, and with its variables laid
over those of the caller. -/
theorem words_of_launch
    {isRead : Bool} {launch : Launch} (h : host.launch isRead command = .ok launch) :
    launch.program = command.program ∧ launch.args = command.args ∧
      launch.environment = host.environment.setAll command.overrides.entries := by
  cases hdir : command.directory with
  | some dir =>
      obtain ⟨-, loc, -, -, rfl⟩ := (launch_eq_ok_iff_of_directory hdir).mp h
      exact ⟨rfl, rfl, rfl⟩
  | none =>
      unfold Host.launch at h
      dsimp only at h
      rw [hdir] at h
      obtain ⟨-, h⟩ := of_guard h
      cases h
      exact ⟨rfl, rfl, rfl⟩

theorem launch_plain (host : Host) (isRead : Bool) (program : String) (args : List String) :
    host.launch isRead (.plain program args) =
      if (program :: args).any holdsNul then .error .nulInCommand
      else .ok ⟨program, args, host.directory, host.environment, host.files, host.attempts.length,
        isRead⟩ := by
  have htexts : (Command.plain program args).texts = program :: args := by
    simp [Command.texts, Command.plain, Environment.empty]
  unfold Host.launch
  dsimp only
  rw [← Command.texts, htexts]
  rfl

/-- How a program ends that is started with the given arguments, and with all else as the host has
it, or why it cannot be started. -/
def endingOf (host : Host) (program : String) (args : List String) : Except IoError Ending :=
  if (program :: args).any holdsNul then .error .nulInCommand
  else
    (host.machine ⟨program, args, host.directory, host.environment, host.files,
      host.attempts.length, false⟩).map Outcome.ending

theorem map_ending_launch_plain (host : Host) (program : String) (args : List String) :
    ((host.launch false (.plain program args)).bind host.machine).map Outcome.ending =
      host.endingOf program args := by
  rw [launch_plain, endingOf]
  by_cases hnul : (program :: args).any holdsNul = true
  · rw [if_pos hnul, if_pos hnul]
    rfl
  · rw [if_neg hnul, if_neg hnul]
    rfl

theorem executeShown_of_ok
    (shown : Stream → Bool) {outcome : Outcome}
    (h : (host.launch false command).bind host.machine = .ok outcome) :
    ∃ next, executeShown shown command host = .ok outcome.ending next := by
  have hexecute : ∃ next, execute false command host = .ok outcome next := by
    rw [execute, h]
    exact ⟨_, rfl⟩
  obtain ⟨next, hexecute⟩ := hexecute
  rw [executeShown, bind_of_ok hexecute]
  exact ⟨_, rfl⟩

theorem executeShown_of_error
    (shown : Stream → Bool) {cause : IoError}
    (h : (host.launch false command).bind host.machine = .error cause) :
    ∃ next, executeShown shown command host = .error cause next := by
  have hexecute : ∃ next, execute false command host = .error cause next := by
    rw [execute, h]
    exact ⟨_, rfl⟩
  obtain ⟨next, hexecute⟩ := hexecute
  exact ⟨next, bind_of_error hexecute _⟩

end Host

end CrossGen
