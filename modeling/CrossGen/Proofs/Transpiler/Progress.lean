import CrossGen.Proofs.Transpiler.Accounting

/-!
# The relay comes to its end

Once the transpiler has closed both of its streams, the relay can always go on until it is over, and
every way of going on leads there: all that can happen for ever is that reads are interrupted.
-/

namespace CrossGen.Relay

def Event.isInterruption : Event → Bool
  | .read _ .interrupted => true
  | _ => false

def State.Closed (s : State) : Prop :=
  ∀ stream, (s.side stream).isOpen = false

/-! ## The work that is left -/

/-- How many steps a pump is away from its end, with those that its message still needs. -/
def Pump.work : Pump → Nat
  | .ended => 0
  | .failing _ => 2
  | .reading => 3
  | .holding _ => 5

/-- A bound of the steps that a side still takes.  Each byte may be read on its own. -/
def Side.work (side : Side) : Nat :=
  3 * side.pipe.size + side.pump.work

def Loop.work : Loop → Nat
  | .running => 1
  | .finished | .failed _ => 0

/-- A bound of the steps that are left, other than interrupted reads. -/
def State.work (s : State) : Nat :=
  (s.side .out).work + (s.side .err).work + s.channel.length + s.loop.work

theorem State.work_set (s : State) (stream : Stream) (side : Side) :
    (s.set stream side).work + (s.side stream).work = s.work + side.work := by
  cases stream with
  | out =>
      rw [work, work, set_side_self, set_side_of_ne s side (by decide), set_channel, set_loop]
      omega
  | err =>
      rw [work, work, set_side_self, set_side_of_ne s side (by decide), set_channel, set_loop]
      omega

theorem State.work_push (s : State) (message : Message) :
    (s.push message).work = s.work + 1 := by
  simp only [work, push, List.length_append, List.length_singleton]
  omega

theorem Side.work_turn (side : Side) (pump : Pump) :
    (side.turn pump).work + side.pump.work = side.work + pump.work := by
  simp only [work, turn]
  omega

theorem Pump.work_released
    {pump : Pump} {stream : Stream} {message : Message}
    (hmessage : pump.message? stream = some message) : pump.released.work + 2 ≤ pump.work := by
  cases pump with
  | reading => cases hmessage
  | holding bytes => exact Nat.le_refl 5
  | failing cause => exact Nat.le_refl 2
  | ended => cases hmessage

theorem Side.Offers.work_lt
    {side : Side} {reading : Reading} {rest : ByteArray}
    (hpump : side.pump = .reading) (hoffers : side.Offers reading rest)
    (hreading : reading ≠ .interrupted) :
    (side.take reading rest).work < side.work := by
  cases hoffers with
  | piece bytes _ nonempty fits hpipe =>
      simp only [Side.work, Side.take, Pump.after, Pump.work, hpump, hpipe, ByteArray.size_append]
      omega
  | interrupted => exact absurd rfl hreading
  | failed cause => simp [Side.work, Side.take, Pump.after, Pump.work, hpump]
  | closed hopen hpipe => simp [Side.work, Side.take, Pump.after, Pump.work, hpump]

/-- After the transpiler has closed its streams, everything but an interrupted read is work done. -/
theorem Step.work_lt
    {s t : State} {event : Event} (step : Step s event t) (hclosed : s.Closed)
    (hevent : event.isInterruption = false) : t.work < s.work := by
  cases step with
  | @write stream bytes hopen => simp [hclosed stream] at hopen
  | @close stream hopen => simp [hclosed stream] at hopen
  | @read stream reading rest hpump hoffers =>
      have hreading : reading ≠ .interrupted := by
        rintro rfl
        cases hevent
      have hlt := hoffers.work_lt hpump hreading
      have hset := s.work_set stream ((s.side stream).take reading rest)
      omega
  | @send stream message hmessage =>
      have hreleased := Pump.work_released hmessage
      have hset := s.work_set stream ((s.side stream).turn (s.side stream).pump.released)
      have hturn := (s.side stream).work_turn (s.side stream).pump.released
      rw [State.work_push]
      omega
  | @refuse stream message hmessage hloop =>
      have hreleased := Pump.work_released hmessage
      have hset := s.work_set stream ((s.side stream).turn .ended)
      have hturn := (s.side stream).work_turn .ended
      have hended : Pump.ended.work = 0 := rfl
      omega
  | @receive message rest answer result hloop hchannel hforward =>
      have hafter : (Loop.after answer).work ≤ 1 := by
        cases answer with
        | ok done => exact Nat.le_refl 1
        | error cause => exact Nat.zero_le 1
      have hrunning : Loop.running.work = 1 := rfl
      simp only [State.work, hchannel, hloop, List.length_cons]
      omega
  | finish hloop hchannel hpumps =>
      simp only [State.work, hloop, Loop.work]
      omega

/-- An interrupted read changes nothing. -/
theorem Step.eq_of_interruption
    {s t : State} {event : Event} (step : Step s event t)
    (hevent : event.isInterruption = true) : t = s := by
  cases step with
  | write bytes hopen => cases hevent
  | close hopen => cases hevent
  | @read stream reading rest hpump hoffers =>
      cases hoffers with
      | piece bytes _ nonempty fits hpipe => cases hevent
      | interrupted =>
          have hside : (s.side stream).take .interrupted (s.side stream).pipe = s.side stream := by
            rw [Side.take, Pump.after, ← hpump]
          rw [State.set, hside, Function.update_eq_self]
      | failed cause => cases hevent
      | closed hopen hpipe => cases hevent
  | send hmessage => cases hevent
  | refuse hmessage hloop => cases hevent
  | receive hloop hchannel hforward => cases hevent
  | finish hloop hchannel hpumps => cases hevent

theorem State.Closed.set
    {s : State} (hclosed : s.Closed) {stream : Stream} {side : Side}
    (hside : side.isOpen = (s.side stream).isOpen) : (s.set stream side).Closed := by
  intro other
  by_cases hother : other = stream
  · rw [hother, State.set_side_self, hside, hclosed stream]
  · rw [State.set_side_of_ne s side hother, hclosed other]

theorem Step.closed
    {s t : State} {event : Event} (step : Step s event t) (hclosed : s.Closed) : t.Closed := by
  cases step with
  | write bytes hopen => exact hclosed.set rfl
  | @close stream hopen => exact hclosed.set (hclosed stream).symm
  | read hpump hoffers => exact hclosed.set rfl
  | send hmessage => exact hclosed.set (by rfl)
  | refuse hmessage hloop => exact hclosed.set rfl
  | receive hloop hchannel hforward => exact hclosed
  | finish hloop hchannel hpumps => exact hclosed

/-- After the transpiler has closed its streams, only so much can happen besides interrupted reads
as there is work left. -/
theorem Run.countP_add_work_le
    {s t : State} {events : List Event} (run : Run s events t) (hclosed : s.Closed) :
    t.Closed ∧ events.countP (fun event => !event.isInterruption) + t.work ≤ s.work := by
  induction run with
  | nil => exact ⟨hclosed, Nat.le_of_eq (Nat.zero_add s.work)⟩
  | @snoc events t u event run step ih =>
      obtain ⟨hstill, hwork⟩ := ih
      refine ⟨step.closed hstill, ?_⟩
      rw [List.countP_append, List.countP_singleton]
      cases hevent : event.isInterruption with
      | false =>
          have hlt := step.work_lt hstill hevent
          simp only [Bool.not_false, if_true]
          omega
      | true =>
          rw [step.eq_of_interruption hevent]
          simpa using hwork

/-- Nothing is written to streams that are closed. -/
theorem Run.written_of_closed
    {s t : State} {events : List Event} (run : Run s events t) (hclosed : s.Closed)
    (stream : Stream) : t.Closed ∧ written stream events = .empty := by
  induction run with
  | nil => exact ⟨hclosed, rfl⟩
  | @snoc events t u event run step ih =>
      obtain ⟨hstill, hwritten⟩ := ih
      refine ⟨step.closed hstill, ?_⟩
      have hsilent : event.writtenTo stream = .empty := by
        cases step with
        | @write origin bytes hopen => simp [hstill origin] at hopen
        | close hopen => rfl
        | read hpump hoffers => rfl
        | send hmessage => rfl
        | refuse hmessage hloop => rfl
        | receive hloop hchannel hforward => rfl
        | finish hloop hchannel hpumps => rfl
      rw [written_of_silent hsilent, hwritten]

/-! ## Something can always happen -/

theorem Side.exists_offers
    {side : Side} (hopen : side.isOpen = false) :
    ∃ reading rest, side.Offers reading rest ∧ reading ≠ .interrupted := by
  by_cases hpipe : side.pipe = .empty
  · exact ⟨.closed, .empty, .closed hopen hpipe, nofun⟩
  · -- A buffer full of bytes is read, or all of them if there are fewer.
    have hsize : side.pipe.size ≠ 0 := fun h => hpipe (ByteArray.size_eq_zero_iff.mp h)
    have hmin : min pieceSize side.pipe.size ≤ side.pipe.size := Nat.min_le_right _ _
    refine ⟨.piece (side.pipe.extract 0 (min pieceSize side.pipe.size)),
      side.pipe.extract (min pieceSize side.pipe.size) side.pipe.size,
      .piece _ _ ?_ ?_ ?_, nofun⟩
    · rw [ByteArray.size_extract]
      simp only [pieceSize]
      omega
    · rw [ByteArray.size_extract]
      omega
    · rw [← ByteArray.extract_eq_extract_append_extract _ (Nat.zero_le _) hmin,
        ByteArray.extract_zero_size]

theorem Pump.exists_message
    {pump : Pump} (hreading : pump ≠ .reading) (hended : pump ≠ .ended) (stream : Stream) :
    ∃ message, pump.message? stream = some message := by
  cases pump with
  | reading => exact absurd rfl hreading
  | holding bytes => exact ⟨_, rfl⟩
  | failing cause => exact ⟨_, rfl⟩
  | ended => exact absurd rfl hended

/-- As long as the relay is not over, it can go on. -/
theorem exists_step_of_not_over
    {s : State} (hclosed : s.Closed) (hover : ¬ s.Over) :
    ∃ event t, Step s event t ∧ event.isInterruption = false := by
  by_cases hpumps : ∀ stream, (s.side stream).pump = .ended
  · have hloop : s.loop = .running := by
      by_contra hended
      exact hover ⟨hended, hpumps⟩
    cases hchannel : s.channel with
    | nil => exact ⟨_, _, .finish hloop hchannel hpumps, rfl⟩
    | cons message rest => exact ⟨_, _, .receive hloop hchannel rfl, rfl⟩
  · obtain ⟨stream, hended⟩ := not_forall.mp hpumps
    by_cases hreading : (s.side stream).pump = .reading
    · obtain ⟨reading, rest, hoffers, hne⟩ := Side.exists_offers (hclosed stream)
      refine ⟨_, _, .read hreading hoffers, ?_⟩
      cases reading with
      | interrupted => exact absurd rfl hne
      | piece bytes => rfl
      | failed cause => rfl
      | closed => rfl
    · obtain ⟨message, hmessage⟩ := Pump.exists_message hreading hended stream
      exact ⟨_, _, .send hmessage, rfl⟩

theorem exists_run_over
    {s : State} (hclosed : s.Closed) : ∃ events t, Run s events t ∧ t.Over := by
  induction hwork : s.work using Nat.strongRecOn generalizing s with
  | ind work ih =>
      by_cases hover : s.Over
      · exact ⟨[], s, .nil, hover⟩
      · obtain ⟨event, next, step, hevent⟩ := exists_step_of_not_over hclosed hover
        obtain ⟨events, t, run, hend⟩ :=
          ih next.work (hwork ▸ step.work_lt hclosed hevent) (step.closed hclosed) rfl
        exact ⟨event :: events, t, run.cons step, hend⟩

/-! ## After a failure -/

/-- Once the loop has failed, nothing reaches the sinks any more. -/
theorem Step.of_failed
    {s t : State} {event : Event} {cause : IoError} (step : Step s event t)
    (hfailed : s.loop = .failed cause) : t.loop = .failed cause ∧ t.sinks = s.sinks := by
  cases step with
  | write bytes hopen => exact ⟨hfailed, rfl⟩
  | close hopen => exact ⟨hfailed, rfl⟩
  | read hpump hoffers => exact ⟨hfailed, rfl⟩
  | send hmessage => exact ⟨hfailed, rfl⟩
  | refuse hmessage hloop => exact ⟨hfailed, rfl⟩
  | receive hloop hchannel hforward =>
      rw [hfailed] at hloop
      cases hloop
  | finish hloop hchannel hpumps =>
      rw [hfailed] at hloop
      cases hloop

theorem Run.of_failed
    {s t : State} {events : List Event} {cause : IoError} (run : Run s events t)
    (hfailed : s.loop = .failed cause) : t.loop = .failed cause ∧ t.sinks = s.sinks := by
  induction run with
  | nil => exact ⟨hfailed, rfl⟩
  | snoc _ step ih =>
      obtain ⟨hstill, hsinks⟩ := ih
      obtain ⟨hloop, hnext⟩ := step.of_failed hstill
      exact ⟨hloop, hnext.trans hsinks⟩

end CrossGen.Relay
