import CrossGen.Proofs.Transpiler.Alarm
import CrossGen.Proofs.Transpiler.Progress
import CrossGen.Proofs.Transpiler.Relaying
import CrossGen.Transpiler.Task

/-!
# What the relay delivers

For every interleaving of the pumps and the loop, and for sinks that behave in any way, the sinks
receive the streams in order, and all of them unless something fails.  A failure is the result of
the call, whatever the transpiler says at its end.  The behaviour of a sink is any function of the
number of pieces offered before, so that along a run it may take each piece in its own way.
-/

namespace CrossGen

/-- How a call of the transpiler ends, by what became of its output and how the program ended. -/
def Task.verdict (command : Command) (ending : Ending) :
    Except IoError Unit → Except TranspileError Unit
  | .error cause => .error (.forwarding cause)
  | .ok () => (Host.checkEnding command ending).mapError .tool

theorem Task.verdict_ok (command : Command) (ending : Ending) :
    Task.verdict command ending (.ok ()) =
      if ending.isSuccess then .ok ()
      else .error (.tool (.failed (Command.told command.program) ending.status?)) := by
  rw [verdict, Host.checkEnding]
  split
  · rfl
  · rfl

namespace Relay

/-- What a run has delivered so far, and what can become of it. -/
structure Delivers (sinks : Sinks) (events : List Event) (s : State) : Prop where
  /-- Each pump has sent what `pump` sends for its readings. -/
  pumped : ∀ stream, ∃ room,
    pump stream room (events.filterMap (Event.readBy? stream)) =
      ⟨events.filterMap (Event.sentBy? stream), []⟩
  /-- What was sent was received or is still in the channel, in order. -/
  queued :
    events.filterMap Event.sent? = events.filterMap Event.received? ++ s.channel
  /-- The sinks are as `forward` leaves them for what was received. -/
  forwarded :
    forward (events.filterMap Event.received?) sinks = (s.loop.answer, s.sinks)
  /-- What a sink has accepted is the beginning of its stream. -/
  ordered : ∀ stream, ∃ accepted rest,
    (s.sinks.sink stream).content = (sinks.sink stream).content ++ accepted ∧
      written stream events = accepted ++ rest
  /-- If nothing fails, the call returns after the streams were closed, the sinks hold all of them,
  and how the program ended is the result. -/
  complete : causes events = [] → s.Over →
    (∀ stream, (s.side stream).isOpen = false ∧
      (s.sinks.sink stream).content = (sinks.sink stream).content ++ written stream events) ∧
    ∀ command ending, Task.verdict command ending s.loop.answer =
      if ending.isSuccess then .ok ()
      else .error (.tool (.failed (Command.told command.program) ending.status?))
  /-- If something fails, the result is one of the failures, however the program ended. -/
  failed : causes events ≠ [] → s.Over → ∃ cause ∈ causes events, ∀ command ending,
    Task.verdict command ending s.loop.answer = .error (.forwarding cause)
  /-- Nothing is written to a sink after the loop has met a failure. -/
  silent : ∀ cause, s.loop = .failed cause → ∀ more t, Run s more t →
    t.loop = .failed cause ∧ t.sinks = s.sinks
  /-- Once the streams are closed the call returns: it can go on until it does, and only reads that
  are interrupted can put that off. -/
  returns : s.Closed →
    (¬ s.Over → ∃ event t, Step s event t ∧ event.isInterruption = false) ∧
    ∀ more t, Run s more t → more.countP (fun event => !event.isInterruption) ≤ s.work

/-- Every run delivers the streams in order, in full or with the failure that prevented it. -/
theorem run_delivers
    {sinks : Sinks} {events : List Event} {s : State} (run : Run (.start sinks) events s) :
    Delivers sinks events s where
  pumped := run.pump_readings
  queued := run.sent_eq_received_append
  forwarded := run.forward_received
  ordered := by
    intro stream
    obtain ⟨accepted, rest, hcontent, hwritten, -⟩ := run.accounted stream
    exact ⟨accepted, rest, hcontent, hwritten⟩
  complete := by
    intro hcauses hover
    obtain ⟨hfinished, hstreams⟩ := run.finished hcauses hover
    refine ⟨fun stream => ⟨(hstreams stream).1, run.content_eq hcauses hover stream⟩, ?_⟩
    intro command ending
    rw [hfinished, Loop.answer, Task.verdict_ok]
  failed := by
    intro hcauses hover
    obtain ⟨cause, hmem, hfailed⟩ := run.loop_failed hcauses hover
    refine ⟨cause, hmem, fun command ending => ?_⟩
    rw [hfailed, Loop.answer, Task.verdict]
  silent := by
    intro cause hfailed more t continuation
    exact continuation.of_failed hfailed
  returns := by
    intro hclosed
    refine ⟨exists_step_of_not_over hclosed, fun more t continuation => ?_⟩
    obtain ⟨-, hwork⟩ := continuation.countP_add_work_le hclosed
    omega

/-! ### Both streams read at the same time, and a sink that is broken -/

theorem size_singleton (byte : UInt8) :
    1 ≤ (⟨#[byte]⟩ : ByteArray).size ∧ (⟨#[byte]⟩ : ByteArray).size ≤ pieceSize :=
  ⟨Nat.le_refl 1, (by decide : 1 ≤ pieceSize)⟩

/-- Both pumps read before either sends, and one of the reads is interrupted. -/
def crossing : List Event :=
  [.write .out ⟨#[1]⟩, .write .err ⟨#[2]⟩, .read .out (.piece ⟨#[1]⟩), .read .err .interrupted,
    .read .err (.piece ⟨#[2]⟩), .send .err (.piece .err ⟨#[2]⟩), .close .out,
    .send .out (.piece .out ⟨#[1]⟩), .receive (.piece .err ⟨#[2]⟩) (.ok ()), .read .out .closed,
    .receive (.piece .out ⟨#[1]⟩) (.ok ()), .close .err, .read .err .closed, .finish]

theorem exists_run_crossing :
    ∃ s, Run (.start ⟨.accepting, .accepting⟩) crossing s ∧ s.Over := by
  refine ⟨_, .cons (.write _ rfl) <| .cons (.write _ rfl) <|
    .cons (.read rfl (.piece _ .empty (size_singleton 1).1 (size_singleton 1).2 rfl)) <|
    .cons (.read rfl .interrupted) <|
    .cons (.read rfl (.piece _ .empty (size_singleton 2).1 (size_singleton 2).2 rfl)) <|
    .cons (.send rfl) <| .cons (.close rfl) <| .cons (.send rfl) <|
    .cons (.receive rfl rfl rfl) <| .cons (.read rfl (.closed rfl rfl)) <|
    .cons (.receive rfl rfl rfl) <| .cons (.close rfl) <|
    .cons (.read rfl (.closed rfl rfl)) <| .cons (.finish rfl rfl ?_) .nil, ?_, ?_⟩
  · intro stream
    cases stream with
    | out => rfl
    | err => rfl
  · exact nofun
  · intro stream
    cases stream with
    | out => rfl
    | err => rfl

/-- One sink takes nothing.  The loop fails on it, and the pump of the other stream is refused. -/
def breaking : List Event :=
  [.write .out ⟨#[1]⟩, .write .err ⟨#[2]⟩, .read .err (.piece ⟨#[2]⟩),
    .send .err (.piece .err ⟨#[2]⟩), .receive (.piece .err ⟨#[2]⟩) (.error .noSpace),
    .read .out (.piece ⟨#[1]⟩), .refuse .out (.piece .out ⟨#[1]⟩), .close .err, .read .err .closed]

theorem exists_run_breaking :
    ∃ s, Run (.start ⟨.accepting, .broken .noSpace⟩) breaking s ∧ s.Over := by
  refine ⟨_, .cons (.write _ rfl) <| .cons (.write _ rfl) <|
    .cons (.read rfl (.piece _ .empty (size_singleton 2).1 (size_singleton 2).2 rfl)) <|
    .cons (.send rfl) <| .cons (.receive rfl rfl rfl) <|
    .cons (.read rfl (.piece _ .empty (size_singleton 1).1 (size_singleton 1).2 rfl)) <|
    .cons (.refuse rfl nofun) <| .cons (.close rfl) <| .cons (.read rfl (.closed rfl rfl)) .nil,
    nofun, ?_⟩
  intro stream
  cases stream with
  | out => rfl
  | err => rfl

/-- Each of the sinks receives the byte of its stream.  A sink that is broken is the result of the
call, however the transpiler ends. -/
theorem run_crossing_delivers :
    (∃ s, Run (.start ⟨.accepting, .accepting⟩) crossing s ∧
      Delivers ⟨.accepting, .accepting⟩ crossing s ∧
      s.sinks.out.content = ⟨#[1]⟩ ∧ s.sinks.err.content = ⟨#[2]⟩ ∧
      Task.verdict (.plain "ccgo" []) (.exited 2) s.loop.answer =
        .error (.tool (.failed "ccgo" (some 2)))) ∧
    ∃ s, Run (.start ⟨.accepting, .broken .noSpace⟩) breaking s ∧
      Delivers ⟨.accepting, .broken .noSpace⟩ breaking s ∧
      ∀ ending, Task.verdict (.plain "ccgo" []) ending s.loop.answer =
        .error (.forwarding .noSpace) := by
  constructor
  · obtain ⟨s, run, hover⟩ := exists_run_crossing
    have h := run_delivers run
    obtain ⟨hstreams, hverdict⟩ := h.complete (by decide) hover
    exact ⟨s, run, h, (hstreams .out).2, (hstreams .err).2, hverdict _ _⟩
  · obtain ⟨s, run, hover⟩ := exists_run_breaking
    have h := run_delivers run
    have hcauses : causes breaking = [.noSpace] := by decide
    obtain ⟨cause, hmem, hverdict⟩ := h.failed (by rw [hcauses]; exact List.cons_ne_nil _ _) hover
    rw [hcauses, List.mem_singleton] at hmem
    subst hmem
    exact ⟨s, run, h, hverdict _⟩

end Relay

end CrossGen
