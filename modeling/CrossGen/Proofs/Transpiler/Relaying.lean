import CrossGen.Proofs.Transpiler.Accounting

/-!
# The relay pumps and forwards

In every run, each pump sends what `pump` sends for the readings that it has made, the channel
hands the messages on in the order in which they were sent, and the loop does what `forward` does
with the messages that it has received.
-/

namespace CrossGen.Relay

/-! ## The channel -/

def Event.sent? : Event → Option Message
  | .send _ message => some message
  | _ => none

def Event.received? : Event → Option Message
  | .receive message _ => some message
  | _ => none

/-- The channel holds what was sent and not received yet, in order. -/
theorem Run.sent_eq_received_append
    {sinks : Sinks} {events : List Event} {s : State} (run : Run (.start sinks) events s) :
    events.filterMap Event.sent? = events.filterMap Event.received? ++ s.channel := by
  induction run with
  | nil => rfl
  | snoc _ step ih =>
      rw [filterMap_snoc, filterMap_snoc, ih]
      cases step with
      | write bytes hopen => simp [Event.sent?, Event.received?]
      | close hopen => simp [Event.sent?, Event.received?]
      | read hpump hoffers => simp [Event.sent?, Event.received?]
      | send hmessage => simp [Event.sent?, Event.received?]
      | refuse hmessage hloop => simp [Event.sent?, Event.received?]
      | receive hloop hchannel hforward => simp [Event.sent?, Event.received?, hchannel]
      | finish hloop hchannel hpumps => simp [Event.sent?, Event.received?]

/-! ## The loop -/

/-- Messages are forwarded after others exactly when those have been taken. -/
theorem forward_append (messages more : List Message) (sinks : Sinks) :
    forward (messages ++ more) sinks =
      match forward messages sinks with
      | (.error cause, stopped) => (.error cause, stopped)
      | (.ok (), next) => forward more next := by
  induction messages generalizing sinks with
  | nil => rfl
  | cons message rest ih =>
      cases message with
      | failed cause => rfl
      | piece stream bytes =>
          rw [List.cons_append, forward, forward]
          rcases sinks.write stream bytes with ⟨answer, middle⟩
          cases answer with
          | error cause => rfl
          | ok done => exact ih middle

theorem forward_append_of_ok
    {messages : List Message} {sinks next : Sinks}
    (h : forward messages sinks = (.ok (), next)) (more : List Message) :
    forward (messages ++ more) sinks = forward more next := by
  rw [forward_append, h]

theorem forward_append_of_error
    {messages : List Message} {sinks next : Sinks} {cause : IoError}
    (h : forward messages sinks = (.error cause, next)) (more : List Message) :
    forward (messages ++ more) sinks = (.error cause, next) := by
  rw [forward_append, h]

/-- The loop has forwarded the messages that it received. -/
theorem Run.forward_received
    {sinks : Sinks} {events : List Event} {s : State} (run : Run (.start sinks) events s) :
    forward (events.filterMap Event.received?) sinks = (s.loop.answer, s.sinks) := by
  induction run with
  | nil => rfl
  | snoc _ step ih =>
      rw [filterMap_snoc]
      cases step with
      | write bytes hopen => simpa [Event.received?] using ih
      | close hopen => simpa [Event.received?] using ih
      | read hpump hoffers => simpa [Event.received?] using ih
      | send hmessage => simpa [Event.received?] using ih
      | refuse hmessage hloop => simpa [Event.received?] using ih
      | @receive message rest answer result hloop hchannel hforward =>
          rw [hloop, Loop.answer] at ih
          rw [Event.received?, Option.toList_some, forward_append_of_ok ih, hforward]
          cases answer with
          | ok done => rfl
          | error cause => rfl
      | finish hloop hchannel hpumps =>
          rw [hloop] at ih
          simpa [Event.received?, Loop.answer] using ih

/-! ## The pumps -/

def Event.sentBy? (stream : Stream) : Event → Option Message
  | .send origin message => if origin = stream then some message else none
  | _ => none

def Event.readBy? (stream : Stream) : Event → Option Reading
  | .read origin reading => if origin = stream then some reading else none
  | _ => none

/-- The reading that a pump has made and not dealt with yet, unless it has ended. -/
def Pump.todo? : Pump → Option (List Reading)
  | .reading => some []
  | .holding bytes => some [.piece bytes]
  | .failing cause => some [.failed cause]
  | .ended => none

/-- What has been pumped after other messages. -/
def Pumped.behind (pumped : Pumped) (sent : List Message) : Pumped :=
  { pumped with sent := sent ++ pumped.sent }

/-- A pump that has made these readings has sent these messages, and if it has not ended it goes on
with what it has still to do. -/
def Follows (stream : Stream) (sent : List Message) (readings : List Reading) (state : Pump) :
    Prop :=
  pump stream sent.length readings = ⟨sent, []⟩ ∧
    ∀ todo, state.todo? = some todo → ∀ room more,
      pump stream (sent.length + room) (readings ++ more) =
        (pump stream room (todo ++ more)).behind sent

theorem Follows.read
    {stream : Stream} {sent : List Message} {readings : List Reading}
    (h : Follows stream sent readings .reading) (reading : Reading) :
    Follows stream sent (readings ++ [reading]) (.after reading) := by
  obtain ⟨-, hgoes⟩ := h
  have hread := hgoes [] rfl
  refine ⟨?_, ?_⟩
  · have hnow := hread 0 [reading]
    rw [Nat.add_zero] at hnow
    rw [hnow]
    cases reading with
    | piece bytes => simp [pump, Pumped.behind]
    | interrupted => simp [pump, Pumped.behind]
    | failed cause => simp [pump, Pumped.behind]
    | closed => simp [pump, Pumped.behind]
  · intro todo htodo room more
    rw [List.append_assoc, hread]
    cases reading with
    | piece bytes =>
        cases htodo
        rfl
    | interrupted =>
        cases htodo
        rfl
    | failed cause =>
        cases htodo
        rfl
    | closed => cases htodo

theorem Follows.send
    {stream : Stream} {sent : List Message} {readings : List Reading} {state : Pump}
    (h : Follows stream sent readings state) {message : Message}
    (hmessage : state.message? stream = some message) :
    Follows stream (sent ++ [message]) readings state.released := by
  obtain ⟨-, hgoes⟩ := h
  have hlength : (sent ++ [message]).length = sent.length + 1 := by simp
  cases state with
  | reading => cases hmessage
  | ended => cases hmessage
  | holding bytes =>
      cases hmessage
      have hheld := hgoes [.piece bytes] rfl
      refine ⟨?_, ?_⟩
      · have hnow := hheld 1 []
        rw [List.append_nil] at hnow
        rw [hlength, hnow]
        simp [pump, Pumped.behind]
      · intro todo htodo room more
        cases htodo
        rw [hlength, Nat.add_assoc, Nat.add_comm 1 room, hheld]
        simp [pump, Pumped.behind]
  | failing cause =>
      cases hmessage
      refine ⟨?_, nofun⟩
      have hnow := hgoes [.failed cause] rfl 1 []
      rw [List.append_nil] at hnow
      rw [hlength, hnow]
      simp [pump, Pumped.behind]

theorem Follows.refuse
    {stream : Stream} {sent : List Message} {readings : List Reading} {state : Pump}
    (h : Follows stream sent readings state) : Follows stream sent readings .ended :=
  ⟨h.1, nofun⟩

theorem Follows.snoc_of_none
    {stream : Stream} {events : List Event} {event : Event} {state : Pump}
    (h : Follows stream (events.filterMap (Event.sentBy? stream))
      (events.filterMap (Event.readBy? stream)) state)
    (hsent : event.sentBy? stream = none) (hread : event.readBy? stream = none) :
    Follows stream ((events ++ [event]).filterMap (Event.sentBy? stream))
      ((events ++ [event]).filterMap (Event.readBy? stream)) state := by
  rw [filterMap_snoc, filterMap_snoc, hsent, hread]
  simpa using h

/-- Each pump has sent what `pump` sends for its readings before the receiver goes away. -/
theorem Run.follows
    {sinks : Sinks} {events : List Event} {s : State} (run : Run (.start sinks) events s)
    (stream : Stream) :
    Follows stream (events.filterMap (Event.sentBy? stream))
      (events.filterMap (Event.readBy? stream)) (s.side stream).pump := by
  induction run with
  | nil =>
      refine ⟨rfl, ?_⟩
      intro todo htodo room more
      cases htodo
      simp [Pumped.behind]
  | @snoc events s t event _ step ih =>
      cases step with
      | write bytes hopen =>
          rw [State.set_pump (by rfl) stream]
          exact ih.snoc_of_none rfl rfl
      | close hopen =>
          rw [State.set_pump (by rfl) stream]
          exact ih.snoc_of_none rfl rfl
      | @read origin reading rest hpump hoffers =>
          by_cases hstream : stream = origin
          · subst hstream
            rw [hpump] at ih
            rw [State.set_side_self, Side.take_pump, filterMap_snoc, filterMap_snoc]
            simpa [Event.sentBy?, Event.readBy?] using ih.read reading
          · rw [State.set_side_of_ne s _ hstream]
            exact ih.snoc_of_none rfl (if_neg (Ne.symm hstream))
      | @send origin message hmessage =>
          rw [State.push_side]
          by_cases hstream : stream = origin
          · subst hstream
            rw [State.set_side_self, Side.turn_pump, filterMap_snoc, filterMap_snoc]
            simpa [Event.sentBy?, Event.readBy?] using ih.send hmessage
          · rw [State.set_side_of_ne s _ hstream]
            exact ih.snoc_of_none (if_neg (Ne.symm hstream)) rfl
      | @refuse origin message hmessage hloop =>
          by_cases hstream : stream = origin
          · subst hstream
            rw [State.set_side_self, Side.turn_pump]
            exact ih.refuse.snoc_of_none rfl rfl
          · rw [State.set_side_of_ne s _ hstream]
            exact ih.snoc_of_none rfl rfl
      | receive hloop hchannel hforward => exact ih.snoc_of_none rfl rfl
      | finish hloop hchannel hpumps => exact ih.snoc_of_none rfl rfl

theorem Run.pump_readings
    {sinks : Sinks} {events : List Event} {s : State} (run : Run (.start sinks) events s)
    (stream : Stream) :
    ∃ room, pump stream room (events.filterMap (Event.readBy? stream)) =
      ⟨events.filterMap (Event.sentBy? stream), []⟩ :=
  ⟨_, (run.follows stream).1⟩

end CrossGen.Relay
