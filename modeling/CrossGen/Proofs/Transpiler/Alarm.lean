import CrossGen.Proofs.Transpiler.Accounting

/-!
# Failures on their way to the loop

A read that fails is reported over the channel, behind all that was read before, and a write or a
flush that fails is met by the loop at once.  From the event on, a failure is therefore in sight: a
pump holds it, or the channel, or the loop has failed.  Nothing else makes the loop fail.
-/

namespace CrossGen.Relay

/-- The cause of a read that fails, or of a message that the loop cannot forward. -/
def Event.cause? : Event → Option IoError
  | .read _ (.failed cause) => some cause
  | .receive _ (.error cause) => some cause
  | _ => none

def causes (events : List Event) : List IoError :=
  events.filterMap Event.cause?

theorem causes_snoc (events : List Event) (event : Event) :
    causes (events ++ [event]) = causes events ++ event.cause?.toList :=
  filterMap_snoc Event.cause? events event

/-- A failure is in sight. -/
inductive State.Reports (s : State) (cause : IoError) : Prop
  | pump {stream : Stream} (h : (s.side stream).pump = .failing cause)
  | channel (h : .failed cause ∈ s.channel)
  | loop (h : s.loop = .failed cause)

theorem Pump.eq_failing_of_after
    {reading : Reading} {cause : IoError} (h : Pump.after reading = .failing cause) :
    reading = .failed cause := by
  cases reading with
  | piece bytes => cases h
  | interrupted => cases h
  | failed other =>
      cases h
      rfl
  | closed => cases h

theorem Pump.eq_failing_of_message
    {pump : Pump} {stream : Stream} {cause : IoError}
    (h : pump.message? stream = some (.failed cause)) : pump = .failing cause := by
  cases pump with
  | reading => cases h
  | holding bytes => cases h
  | failing other =>
      cases h
      rfl
  | ended => cases h

/-- A pump that ends with sending its message has sent a failure. -/
theorem Pump.exists_eq_failing
    {pump : Pump} {stream : Stream} {message : Message}
    (hmessage : pump.message? stream = some message) (hreleased : pump.released = .ended) :
    ∃ cause, pump = .failing cause := by
  cases pump with
  | reading => cases hmessage
  | holding bytes => cases hreleased
  | failing cause => exact ⟨cause, rfl⟩
  | ended => cases hmessage

/-- A pump other than the one that changes holds the failure that it held before. -/
theorem State.Reports.set
    {s : State} {changed : Stream} {side : Side} {cause : IoError} (h : s.Reports cause)
    (hpump : (s.side changed).pump = .failing cause → (s.set changed side).Reports cause) :
    (s.set changed side).Reports cause := by
  cases h with
  | @pump stream h =>
      by_cases hstream : stream = changed
      · exact hpump (hstream ▸ h)
      · exact .pump (by rw [State.set_side_of_ne s side hstream, h])
  | channel h => exact .channel h
  | loop h => exact .loop h

theorem State.Reports.send
    {s : State} {sender : Stream} {message : Message} {cause : IoError} (h : s.Reports cause)
    (hmessage : (s.side sender).pump.message? sender = some message) :
    ((s.set sender ((s.side sender).turn (s.side sender).pump.released)).push message).Reports
      cause := by
  cases h with
  | @pump stream h =>
      by_cases hstream : stream = sender
      · subst hstream
        rw [h] at hmessage
        cases hmessage
        exact .channel (by simp)
      · exact .pump (State.set_side_of_ne s _ hstream ▸ h)
  | channel h => exact .channel (List.mem_append_left [message] h)
  | loop h => exact .loop h

/-- A message that is forwarded was not the failure in sight. -/
theorem State.Reports.receive
    {s : State} {message : Message} {channel : List Message} {next : Sinks} {cause : IoError}
    (h : s.Reports cause) (hloop : s.loop = .running) (hchannel : s.channel = message :: channel)
    (hforward : forward [message] s.sinks = (.ok (), next)) :
    State.Reports ⟨s.side, channel, .running, next⟩ cause := by
  cases h with
  | pump h => exact .pump h
  | channel h =>
      rw [hchannel] at h
      cases h with
      | head => cases hforward
      | tail _ h => exact .channel h
  | loop h =>
      rw [hloop] at h
      cases h

/-- A failure that is in sight stays so until the loop has failed. -/
theorem Step.reports
    {s t : State} {event : Event} {cause : IoError} (step : Step s event t) (hs : s.Settled)
    (h : s.Reports cause) : ∃ met, t.Reports met := by
  cases step with
  | write bytes hopen =>
      exact ⟨cause, h.set fun hpump => .pump (by rw [State.set_side_self, Side.fill_pump, hpump])⟩
  | close hopen =>
      exact ⟨cause, h.set fun hpump => .pump (by rw [State.set_side_self, Side.shut_pump, hpump])⟩
  | read hreading hoffers =>
      refine ⟨cause, h.set fun hpump => ?_⟩
      rw [hreading] at hpump
      cases hpump
  | send hmessage => exact ⟨cause, h.send hmessage⟩
  | refuse hmessage hloop =>
      obtain ⟨met, hfailed⟩ := hs.exists_failed hmessage hloop
      exact ⟨met, .loop hfailed⟩
  | @receive message channel answer result hloop hchannel hforward =>
      cases answer with
      | error met => exact ⟨met, .loop (by rfl)⟩
      | ok done => exact ⟨cause, h.receive hloop hchannel hforward⟩
  | finish hloop hchannel hpumps =>
      cases h with
      | @pump stream h =>
          rw [hpumps stream] at h
          cases h
      | channel h =>
          rw [hchannel] at h
          cases h
      | loop h =>
          rw [hloop] at h
          cases h

/-- What fails comes in sight. -/
theorem Step.reports_cause
    {s t : State} {event : Event} {cause : IoError} (step : Step s event t)
    (hcause : event.cause? = some cause) : t.Reports cause := by
  cases step with
  | write bytes hopen => cases hcause
  | close hopen => cases hcause
  | @read stream reading rest hpump hoffers =>
      cases reading with
      | piece bytes => cases hcause
      | interrupted => cases hcause
      | failed met =>
          cases hcause
          exact .pump (by rw [State.set_side_self, Side.take_pump, Pump.after])
      | closed => cases hcause
  | send hmessage => cases hcause
  | refuse hmessage hloop => cases hcause
  | @receive message rest answer result hloop hchannel hforward =>
      cases answer with
      | ok done => cases hcause
      | error met =>
          cases hcause
          exact .loop (by rfl)
  | finish hloop hchannel hpumps => cases hcause

/-- What comes in sight is held by the pump that changed, or was in sight before. -/
theorem State.Reports.of_set
    {s : State} {changed : Stream} {side : Side} {cause : IoError} {new : Prop}
    (h : (s.set changed side).Reports cause)
    (hpump : side.pump = .failing cause → s.Reports cause ∨ new) :
    s.Reports cause ∨ new := by
  cases h with
  | @pump stream h =>
      by_cases hstream : stream = changed
      · rw [hstream, State.set_side_self] at h
        exact hpump h
      · rw [State.set_side_of_ne s side hstream] at h
        exact .inl (.pump h)
  | channel h => exact .inl (.channel h)
  | loop h => exact .inl (.loop h)

/-- Nothing comes in sight but what fails. -/
theorem Step.reports_origin
    {s t : State} {event : Event} {cause : IoError} (step : Step s event t)
    (h : t.Reports cause) : s.Reports cause ∨ event.cause? = some cause := by
  cases step with
  | write bytes hopen => exact h.of_set fun hpump => .inl (.pump hpump)
  | close hopen => exact h.of_set fun hpump => .inl (.pump hpump)
  | read hpump hoffers =>
      refine h.of_set fun hafter => .inr ?_
      rw [Pump.eq_failing_of_after hafter]
      rfl
  | @send sender message hmessage =>
      cases h with
      | @pump stream h =>
          refine State.Reports.of_set (.pump h) fun hreleased => ?_
          cases hpump : (s.side sender).pump with
          | reading => simp [hpump, Pump.released] at hreleased
          | holding bytes => simp [hpump, Pump.released] at hreleased
          | failing met => simp [hpump, Pump.released] at hreleased
          | ended => simp [hpump, Pump.released] at hreleased
      | channel h =>
          rcases List.mem_append.mp h with hbefore | hlast
          · exact .inl (.channel hbefore)
          · rw [List.mem_singleton] at hlast
            subst hlast
            exact .inl (.pump (Pump.eq_failing_of_message hmessage))
      | loop h => exact .inl (.loop h)
  | refuse hmessage hloop => exact h.of_set fun hpump => by cases hpump
  | @receive message rest answer result hloop hchannel hforward =>
      cases h with
      | pump h => exact .inl (.pump h)
      | channel h => exact .inl (.channel (hchannel ▸ List.mem_cons_of_mem message h))
      | loop h =>
          cases answer with
          | ok done => cases h
          | error met =>
              cases h
              exact .inr rfl
  | finish hloop hchannel hpumps =>
      cases h with
      | pump h => exact .inl (.pump h)
      | channel h => exact .inl (.channel h)
      | loop h => cases h

/-! ## Runs -/

theorem Run.mem_causes_of_reports
    {sinks : Sinks} {events : List Event} {s : State} (run : Run (.start sinks) events s)
    {cause : IoError} (h : s.Reports cause) : cause ∈ causes events := by
  induction run generalizing cause with
  | nil =>
      cases h with
      | pump h => cases h
      | channel h => cases h
      | loop h => cases h
  | snoc _ step ih =>
      rw [causes_snoc, List.mem_append, Option.mem_toList]
      exact (step.reports_origin h).imp ih id

theorem Run.exists_reports
    {sinks : Sinks} {events : List Event} {s : State} (run : Run (.start sinks) events s)
    (hcauses : causes events ≠ []) : ∃ cause, s.Reports cause := by
  induction run with
  | nil => exact absurd rfl hcauses
  | @snoc events t u event run step ih =>
      by_cases hbefore : causes events = []
      · rw [causes_snoc, hbefore, List.nil_append] at hcauses
        obtain ⟨cause, hcause⟩ := List.exists_mem_of_ne_nil _ hcauses
        exact ⟨cause, step.reports_cause (Option.mem_toList.mp hcause)⟩
      · obtain ⟨cause, hreports⟩ := ih hbefore
        exact step.reports run.settled hreports

/-- If something fails, the loop fails for a cause that was met. -/
theorem Run.loop_failed
    {sinks : Sinks} {events : List Event} {s : State} (run : Run (.start sinks) events s)
    (hcauses : causes events ≠ []) (hover : s.Over) :
    ∃ cause ∈ causes events, s.loop = .failed cause := by
  obtain ⟨cause, hreports⟩ := run.exists_reports hcauses
  obtain ⟨hended, hpumps⟩ := hover
  cases hloop : s.loop with
  | running => exact absurd hloop hended
  | failed met => exact ⟨met, run.mem_causes_of_reports (.loop hloop), rfl⟩
  | finished =>
      cases hreports with
      | @pump stream h =>
          rw [hpumps stream] at h
          cases h
      | channel h =>
          rw [(run.settled hloop).1] at h
          cases h
      | loop h =>
          rw [hloop] at h
          cases h

/-! ## Pumps that end without a failure -/

/-- A pump has ended because its stream was at its end, or a failure is in sight. -/
def State.Drained (s : State) (stream : Stream) : Prop :=
  (s.side stream).pump = .ended →
    ((s.side stream).isOpen = false ∧ (s.side stream).pipe = .empty) ∨ ∃ cause, s.Reports cause

/-- Where neither the side nor what is in sight is lost, a pump that has ended keeps its reason. -/
theorem Step.drained_of_side_eq
    {s t : State} {event : Event} (step : Step s event t) (hs : s.Settled) {stream : Stream}
    (h : s.Drained stream) (hside : t.side stream = s.side stream) : t.Drained stream := by
  intro hended
  rw [hside] at hended ⊢
  rcases h hended with hend | ⟨cause, hreports⟩
  · exact .inl hend
  · exact .inr (step.reports hs hreports)

/-- A stream that is written to or closed is open, so its pump has not ended, or a failure is in
sight. -/
theorem Step.drained_of_open
    {s t : State} {event : Event} (step : Step s event t) (hs : s.Settled) {stream : Stream}
    (h : s.Drained stream) (hopen : (s.side stream).isOpen = true)
    (hpump : (t.side stream).pump = (s.side stream).pump) : t.Drained stream := by
  intro hended
  rcases h (hpump ▸ hended) with ⟨hclosed, -⟩ | ⟨cause, hreports⟩
  · rw [hopen] at hclosed
    cases hclosed
  · exact .inr (step.reports hs hreports)

theorem Step.drained
    {s t : State} {event : Event} (step : Step s event t) (hs : s.Settled) {stream : Stream}
    (h : s.Drained stream) : t.Drained stream := by
  have hstep := step
  cases step with
  | @write changed bytes hopen =>
      by_cases hstream : stream = changed
      · subst hstream
        exact hstep.drained_of_open hs h hopen (by rw [State.set_side_self, Side.fill_pump])
      · exact hstep.drained_of_side_eq hs h (State.set_side_of_ne s _ hstream)
  | @close changed hopen =>
      by_cases hstream : stream = changed
      · subst hstream
        exact hstep.drained_of_open hs h hopen (by rw [State.set_side_self, Side.shut_pump])
      · exact hstep.drained_of_side_eq hs h (State.set_side_of_ne s _ hstream)
  | @read changed reading rest hpump hoffers =>
      by_cases hstream : stream = changed
      · subst hstream
        intro hended
        rw [State.set_side_self] at hended ⊢
        cases hoffers with
        | piece bytes _ nonempty fits hpipe => cases hended
        | interrupted => cases hended
        | failed cause => cases hended
        | closed hopen hpipe => exact .inl ⟨hopen, rfl⟩
      · exact hstep.drained_of_side_eq hs h (State.set_side_of_ne s _ hstream)
  | @send sender message hmessage =>
      by_cases hstream : stream = sender
      · subst hstream
        intro hended
        rw [State.push_side, State.set_side_self, Side.turn_pump] at hended
        obtain ⟨cause, hpump⟩ := Pump.exists_eq_failing hmessage hended
        exact .inr (hstep.reports hs (.pump hpump))
      · exact hstep.drained_of_side_eq hs h (State.set_side_of_ne s _ hstream)
  | refuse hmessage hloop =>
      obtain ⟨met, hfailed⟩ := hs.exists_failed hmessage hloop
      exact fun _ => .inr ⟨met, .loop hfailed⟩
  | receive hloop hchannel hforward => exact hstep.drained_of_side_eq hs h rfl
  | finish hloop hchannel hpumps => exact hstep.drained_of_side_eq hs h rfl

theorem Run.drained
    {sinks : Sinks} {events : List Event} {s : State} (run : Run (.start sinks) events s)
    (stream : Stream) : s.Drained stream := by
  induction run with
  | nil => exact nofun
  | snoc run step ih => exact step.drained run.settled ih

/-- If nothing fails, the loop ends behind the last byte of either stream. -/
theorem Run.finished
    {sinks : Sinks} {events : List Event} {s : State} (run : Run (.start sinks) events s)
    (hcauses : causes events = []) (hover : s.Over) :
    s.loop = .finished ∧
      ∀ stream, (s.side stream).isOpen = false ∧ s.pending stream = .empty := by
  have hquiet : ∀ cause, ¬ s.Reports cause := by
    intro cause hreports
    have hmem := run.mem_causes_of_reports hreports
    rw [hcauses] at hmem
    cases hmem
  obtain ⟨hended, hpumps⟩ := hover
  have hfinished : s.loop = .finished := by
    cases hloop : s.loop with
    | running => exact absurd hloop hended
    | finished => rfl
    | failed cause => exact absurd (.loop hloop) (hquiet cause)
  refine ⟨hfinished, fun stream => ?_⟩
  rcases run.drained stream (hpumps stream) with ⟨hclosed, hpipe⟩ | ⟨cause, hreports⟩
  · refine ⟨hclosed, ?_⟩
    rw [State.pending, (run.settled hfinished).1, Side.unsent, hpumps stream, hpipe]
    rfl
  · exact absurd hreports (hquiet cause)

theorem Run.content_eq
    {sinks : Sinks} {events : List Event} {s : State} (run : Run (.start sinks) events s)
    (hcauses : causes events = []) (hover : s.Over) (stream : Stream) :
    (s.sinks.sink stream).content = (sinks.sink stream).content ++ written stream events := by
  obtain ⟨hfinished, hstreams⟩ := run.finished hcauses hover
  obtain ⟨accepted, rest, hcontent, hwritten, hrest⟩ := run.accounted stream
  have hempty : rest = .empty :=
    (hrest (by rw [hfinished]; nofun)).trans (hstreams stream).2
  rw [hcontent, hwritten, hempty, ByteArray.append_empty]

end CrossGen.Relay
