import CrossGen.Proofs.Host.Trying
import CrossGen.Transpiler.Task

/-!
# Sinks that take everything

If the sinks take every piece, forwarding always succeeds.  Then a task fails exactly if its program
does, and the failure says how.
-/

namespace CrossGen

theorem Sinks.Working.write
    {sinks : Sinks} (h : sinks.Working) (stream : Stream) (piece : ByteArray) :
    ∃ after, sinks.write stream piece = (.ok (), after) ∧ after.Working := by
  unfold Sinks.write Sink.write
  cases stream with
  | out =>
      rw [(h sinks.out.offered).1]
      exact ⟨_, rfl, h⟩
  | err =>
      rw [(h sinks.err.offered).2]
      exact ⟨_, rfl, h⟩

theorem Sinks.Working.forward
    {sinks : Sinks} (h : sinks.Working) {messages : List Relay.Message}
    (hpieces : ∀ message ∈ messages, ∃ stream bytes, message = .piece stream bytes) :
    ∃ after, Relay.forward messages sinks = (.ok (), after) ∧ after.Working := by
  induction messages generalizing sinks with
  | nil => exact ⟨sinks, rfl, h⟩
  | cons message rest ih =>
      obtain ⟨⟨stream, bytes, rfl⟩, hrest⟩ := List.forall_mem_cons.mp hpieces
      obtain ⟨middle, hwrite, hmiddle⟩ := h.write stream bytes
      obtain ⟨after, hforward, hafter⟩ := ih hmiddle hrest
      rw [Relay.forward, hwrite]
      exact ⟨after, hforward, hafter⟩

theorem Relay.exists_piece_of_mem_messages
    {output : List (Stream × ByteArray)} {message : Relay.Message}
    (h : message ∈ Relay.messages output) :
    ∃ stream bytes, message = .piece stream bytes := by
  obtain ⟨⟨stream, bytes⟩, -, hmessage⟩ := List.mem_flatMap.mp h
  obtain ⟨piece, -, rfl⟩ := List.mem_map.mp hmessage
  exact ⟨stream, piece, rfl⟩

namespace Task

variable {task : Task} {program : String} {host next : Host}

theorem forwardUntil_of_working
    (hsinks : host.sinks.Working) (leaving : Nat → FileSystem)
    (output : List (Stream × ByteArray)) :
    ∃ after, forwardUntil leaving output host = .ok () { host with sinks := after } ∧
      after.Working := by
  have hpieces : ∀ message ∈ Relay.messages output, ∃ stream bytes,
      message = .piece stream bytes :=
    fun _ => Relay.exists_piece_of_mem_messages
  obtain ⟨after, hforward, hafter⟩ := hsinks.forward hpieces
  refine ⟨after, ?_, hafter⟩
  rw [forwardUntil, forwardOutput, hforward]

/-- Forwarding tries no command, and sinks that work still do. -/
theorem tries_of_forwardUntil
    {leaving : Nat → FileSystem} {output : List (Stream × ByteArray)}
    (h : forwardUntil leaving output host = .ok () next) :
    host.Tries next [] := by
  refine ⟨?_, fun hsinks => ?_⟩
  · unfold forwardUntil forwardOutput at h
    rcases hforward : Relay.forward (Relay.messages output) host.sinks with ⟨answer, sinks⟩
    rw [hforward] at h
    cases answer with
    | error cause => cases h
    | ok done =>
        cases h
        exact (List.append_nil _).symm
  · obtain ⟨after, hforward, hafter⟩ := forwardUntil_of_working hsinks leaving output
    rw [hforward] at h
    cases h
    exact hafter

theorem forwardUntil_ne_error
    (hsinks : host.sinks.Working) (leaving : Nat → FileSystem)
    (output : List (Stream × ByteArray)) (e : TranspileError) (next : Host) :
    forwardUntil leaving output host ≠ .error e next := by
  obtain ⟨after, hforward, -⟩ := forwardUntil_of_working hsinks leaving output
  rw [hforward]
  exact nofun

theorem tries_of_run (h : task.run program host = .ok () next) :
    host.Tries next [⟨task.command program, .ok (.exited 0)⟩] := by
  obtain ⟨outcome, started, hexecute, hrest⟩ := bind_eq_ok_iff.mp h
  obtain ⟨done, forwarded, hforward, hcheck⟩ := bind_eq_ok_iff.mp hrest
  obtain ⟨hending, rfl⟩ := Host.ofExcept_eq_ok_iff.mp (Host.failAs_eq_ok_iff.mp hcheck)
  have htries := Host.tries_of_execute (Host.failAs_eq_ok_iff.mp hexecute)
  rw [Host.checkEnding_eq_ok_iff.mp hending] at htries
  exact htries.trans (tries_of_forwardUntil hforward)

/-- With sinks that work, a task fails only because its program could not be started or failed. -/
theorem tries_of_run_error
    (hsinks : host.sinks.Working) {e : TranspileError}
    (h : task.run program host = .error e next) :
    ∃ result error, e = .tool error ∧ host.Tries next [⟨task.command program, result⟩] ∧
      Attempt.FailedWith ⟨task.command program, result⟩ error := by
  rcases bind_eq_error_iff.mp h with hexecute | ⟨outcome, started, hexecute, hrest⟩
  · obtain ⟨cause, hcause, rfl⟩ := Host.failAs_eq_error_iff.mp hexecute
    exact ⟨_, _, rfl, Host.tries_of_execute_error hcause, .notStarted⟩
  · have htries := Host.tries_of_execute (Host.failAs_eq_ok_iff.mp hexecute)
    rcases bind_eq_error_iff.mp hrest with hforward | ⟨done, forwarded, hforward, hcheck⟩
    · exact absurd hforward (forwardUntil_ne_error (htries.sinks hsinks) _ _ _ _)
    · obtain ⟨error, hchecked, rfl⟩ := Host.failAs_eq_error_iff.mp hcheck
      obtain ⟨hending, rfl⟩ := Host.ofExcept_eq_error_iff.mp hchecked
      exact ⟨_, _, rfl, htries.trans (tries_of_forwardUntil hforward),
        Host.failedWith_of_checkEnding hending _⟩

end Task

end CrossGen
