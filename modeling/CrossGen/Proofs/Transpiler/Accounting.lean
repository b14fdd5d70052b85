import CrossGen.Proofs.Transpiler.Interleaving

/-!
# Where the bytes of a stream are

Every byte that the transpiler has written to a stream is in one of four places: the sink has
accepted it, a message in the channel carries it, the pump holds it, or nobody has read it yet.  Put
behind each other in this order the four places make up the stream, after every step of every run
in which the loop has not failed; when it has failed, what the sink has accepted is still the
beginning of the stream.
-/

namespace CrossGen.Relay

/-! ## Bytes of messages and events -/

/-- The bytes of all entries of a list, one after the other. -/
def gather {α : Type} (bytes : α → ByteArray) : List α → ByteArray
  | [] => .empty
  | entry :: rest => bytes entry ++ gather bytes rest

theorem gather_append {α : Type} (bytes : α → ByteArray) (entries more : List α) :
    gather bytes (entries ++ more) = gather bytes entries ++ gather bytes more := by
  induction entries with
  | nil => rw [List.nil_append, gather, ByteArray.empty_append]
  | cons entry rest ih => rw [List.cons_append, gather, gather, ih, ByteArray.append_assoc]

theorem gather_singleton {α : Type} (bytes : α → ByteArray) (entry : α) :
    gather bytes [entry] = bytes entry := by
  rw [gather, gather, ByteArray.append_empty]

/-- The bytes that a message carries for a stream. -/
def Message.bytesFor (stream : Stream) : Message → ByteArray
  | .piece origin bytes => if origin = stream then bytes else .empty
  | .failed _ => .empty

def Event.writtenTo (stream : Stream) : Event → ByteArray
  | .write origin bytes => if origin = stream then bytes else .empty
  | _ => .empty

def written (stream : Stream) (events : List Event) : ByteArray :=
  gather (Event.writtenTo stream) events

theorem written_cons (stream : Stream) (event : Event) (events : List Event) :
    written stream (event :: events) = event.writtenTo stream ++ written stream events :=
  rfl

theorem written_append (stream : Stream) (events more : List Event) :
    written stream (events ++ more) = written stream events ++ written stream more :=
  gather_append (Event.writtenTo stream) events more

theorem written_snoc (stream : Stream) (events : List Event) (event : Event) :
    written stream (events ++ [event]) = written stream events ++ event.writtenTo stream := by
  rw [written, gather_append, gather_singleton, written]

theorem written_of_silent
    {stream : Stream} {event : Event} (hsilent : event.writtenTo stream = .empty)
    (events : List Event) :
    written stream (events ++ [event]) = written stream events := by
  rw [written_snoc, hsilent, ByteArray.append_empty]

/-- The bytes of a stream that its pump has not sent. -/
def Side.unsent (side : Side) : ByteArray :=
  side.pump.held ++ side.pipe

/-- The bytes of a stream that are on their way to the sink. -/
def State.pending (s : State) (stream : Stream) : ByteArray :=
  gather (Message.bytesFor stream) s.channel ++ (s.side stream).unsent

/-! ## What single steps do to the bytes -/

theorem Side.Offers.unsent_eq
    {side : Side} {reading : Reading} {rest : ByteArray}
    (hpump : side.pump = .reading) (hoffers : side.Offers reading rest) :
    (side.take reading rest).unsent = side.unsent := by
  cases hoffers with
  | piece bytes _ nonempty fits hpipe =>
      simp only [Side.unsent, Side.take, Pump.after, Pump.held, hpump, hpipe,
        ByteArray.empty_append]
  | interrupted => simp only [Side.unsent, Side.take, Pump.after, Pump.held, hpump]
  | failed cause => simp only [Side.unsent, Side.take, Pump.after, Pump.held, hpump]
  | closed hopen hpipe => simp only [Side.unsent, Side.take, Pump.after, Pump.held, hpump, hpipe]

theorem Pump.held_eq_bytesFor
    {pump : Pump} {stream : Stream} {message : Message}
    (hmessage : pump.message? stream = some message) :
    pump.held = message.bytesFor stream ∧ pump.released.held = .empty := by
  cases pump with
  | reading => cases hmessage
  | holding bytes =>
      cases hmessage
      exact ⟨by simp [held, Message.bytesFor], rfl⟩
  | failing cause =>
      cases hmessage
      exact ⟨rfl, rfl⟩
  | ended => cases hmessage

theorem Pump.bytesFor_of_ne
    {pump : Pump} {stream other : Stream} {message : Message}
    (hmessage : pump.message? stream = some message) (hother : other ≠ stream) :
    message.bytesFor other = .empty := by
  cases pump with
  | reading => cases hmessage
  | holding bytes =>
      cases hmessage
      simp [Message.bytesFor, hother.symm]
  | failing cause =>
      cases hmessage
      rfl
  | ended => cases hmessage

/-- A sink accepts a part of what is offered to it from the first byte on, and all of it unless the
offer fails. -/
theorem Sink.write_content
    {sink result : Sink} {piece : ByteArray} {answer : Except IoError Unit}
    (hwrite : sink.write piece = (answer, result)) :
    ∃ taken rest, result.content = sink.content ++ taken ∧ piece = taken ++ rest ∧
      (answer = .ok () → rest = .empty) := by
  unfold Sink.write at hwrite
  split at hwrite
  · cases hwrite
    exact ⟨piece, .empty, rfl, ByteArray.append_empty.symm, fun _ => rfl⟩
  · rename_i taken cause _
    cases hwrite
    refine ⟨piece.extract 0 taken, piece.extract taken piece.size, rfl, ?_, nofun⟩
    by_cases hle : taken ≤ piece.size
    · rw [← ByteArray.extract_eq_extract_append_extract taken (Nat.zero_le taken) hle,
        ByteArray.extract_zero_size]
    · have hempty : piece.extract taken piece.size = .empty :=
        ByteArray.extract_eq_empty_iff.mpr (by omega)
      rw [hempty, ByteArray.append_empty, ← Nat.max_eq_left (Nat.le_of_not_le hle),
        ByteArray.extract_zero_max_size]

theorem forward_piece (stream : Stream) (bytes : ByteArray) (sinks : Sinks) :
    forward [.piece stream bytes] sinks = sinks.write stream bytes := by
  rw [forward]
  rcases sinks.write stream bytes with ⟨answer, result⟩
  cases answer with
  | ok done => rfl
  | error cause => rfl

theorem sink_of_write
    {sinks result : Sinks} {stream : Stream} {piece : ByteArray} {answer : Except IoError Unit}
    (hwrite : sinks.write stream piece = (answer, result)) :
    (sinks.sink stream).write piece = (answer, result.sink stream) ∧
      ∀ other, other ≠ stream → result.sink other = sinks.sink other := by
  cases stream with
  | out =>
      cases hwrite
      refine ⟨rfl, ?_⟩
      intro other hother
      cases other with
      | out => exact absurd rfl hother
      | err => rfl
  | err =>
      cases hwrite
      refine ⟨rfl, ?_⟩
      intro other hother
      cases other with
      | out => rfl
      | err => exact absurd rfl hother

/-- A message changes the sink of its own stream, and no other. -/
theorem forward_singleton_content
    {message : Message} {sinks result : Sinks} {answer : Except IoError Unit}
    (hforward : forward [message] sinks = (answer, result)) (stream : Stream) :
    ∃ taken rest, (result.sink stream).content = (sinks.sink stream).content ++ taken ∧
      message.bytesFor stream = taken ++ rest ∧ (answer = .ok () → rest = .empty) := by
  have unchanged (hsink : result.sink stream = sinks.sink stream)
      (hbytes : message.bytesFor stream = .empty) :
      ∃ taken rest, (result.sink stream).content = (sinks.sink stream).content ++ taken ∧
        message.bytesFor stream = taken ++ rest ∧ (answer = .ok () → rest = .empty) :=
    ⟨.empty, .empty, by rw [hsink, ByteArray.append_empty], hbytes, fun _ => rfl⟩
  cases message with
  | failed cause =>
      cases hforward
      exact unchanged rfl rfl
  | piece origin bytes =>
      rw [forward_piece] at hforward
      obtain ⟨hown, hothers⟩ := sink_of_write hforward
      by_cases hstream : stream = origin
      · subst hstream
        obtain ⟨taken, rest, hcontent, hpiece, hrest⟩ := Sink.write_content hown
        exact ⟨taken, rest, hcontent, by simpa [Message.bytesFor] using hpiece, hrest⟩
      · exact unchanged (hothers stream hstream)
          (by simp [Message.bytesFor, Ne.symm hstream])

/-! ## The account of a stream -/

/-- A loop that found the channel empty and the pumps ended stays at that. -/
def State.Settled (s : State) : Prop :=
  s.loop = .finished → s.channel = [] ∧ ∀ stream, (s.side stream).pump = .ended

theorem State.Settled.loop_ne_finished
    {s : State} (hs : s.Settled) {stream : Stream} (hpump : (s.side stream).pump ≠ .ended) :
    s.loop ≠ .finished :=
  fun hfinished => hpump ((hs hfinished).2 stream)

theorem Pump.ne_ended_of_message
    {pump : Pump} {stream : Stream} {message : Message}
    (hmessage : pump.message? stream = some message) : pump ≠ .ended := by
  rintro rfl
  cases hmessage

theorem State.Settled.exists_failed
    {s : State} (hs : s.Settled) {stream : Stream} {message : Message}
    (hmessage : (s.side stream).pump.message? stream = some message)
    (hloop : s.loop ≠ .running) : ∃ cause, s.loop = .failed cause := by
  have hunfinished := hs.loop_ne_finished (Pump.ne_ended_of_message hmessage)
  cases hcase : s.loop with
  | running => exact absurd hcase hloop
  | finished => exact absurd hcase hunfinished
  | failed cause => exact ⟨cause, rfl⟩

theorem Step.settled
    {s t : State} {event : Event} (step : Step s event t) (hs : s.Settled) : t.Settled := by
  intro hfinished
  cases step with
  | write bytes hopen =>
      obtain ⟨hchannel, hpumps⟩ := hs hfinished
      exact ⟨hchannel, fun stream => (State.set_pump (by rfl) stream).trans (hpumps stream)⟩
  | close hopen =>
      obtain ⟨hchannel, hpumps⟩ := hs hfinished
      exact ⟨hchannel, fun stream => (State.set_pump (by rfl) stream).trans (hpumps stream)⟩
  | read hpump hoffers => exact absurd hfinished (hs.loop_ne_finished (by rw [hpump]; nofun))
  | send hmessage =>
      exact absurd hfinished (hs.loop_ne_finished (Pump.ne_ended_of_message hmessage))
  | refuse hmessage hloop =>
      exact absurd hfinished (hs.loop_ne_finished (Pump.ne_ended_of_message hmessage))
  | @receive _ _ answer _ hloop hchannel hforward =>
      cases answer with
      | ok done => cases hfinished
      | error cause => cases hfinished
  | finish hloop hchannel hpumps => exact ⟨hchannel, hpumps⟩

theorem Run.settled
    {sinks : Sinks} {events : List Event} {s : State} (run : Run (.start sinks) events s) :
    s.Settled := by
  induction run with
  | nil => exact nofun
  | snoc _ step ih => exact step.settled ih

/-- What the sink of a stream has accepted is the beginning of the stream, and unless the loop has
failed the pending bytes are the rest of it. -/
def Accounted (sinks : Sinks) (events : List Event) (s : State) (stream : Stream) : Prop :=
  ∃ accepted rest, (s.sinks.sink stream).content = (sinks.sink stream).content ++ accepted ∧
    written stream events = accepted ++ rest ∧
    ((∀ cause, s.loop ≠ .failed cause) → rest = s.pending stream)

/-- A step that sends nothing, and leaves the sinks alone, keeps the account of a stream if the
bytes that it adds to the stream are added to those that the pump has not sent. -/
theorem Accounted.set
    {sinks : Sinks} {events : List Event} {s : State} {stream changed : Stream}
    (h : Accounted sinks events s stream) {event : Event} {side : Side}
    (hsame : side.unsent = (s.side changed).unsent ++ event.writtenTo changed)
    (hother : ∀ other, other ≠ changed → event.writtenTo other = .empty) :
    Accounted sinks (events ++ [event]) (s.set changed side) stream := by
  obtain ⟨accepted, rest, hcontent, hwritten, hrest⟩ := h
  refine ⟨accepted, rest ++ event.writtenTo stream, hcontent, ?_, ?_⟩
  · rw [written_snoc, hwritten, ByteArray.append_assoc]
  · intro hloop
    rw [hrest hloop, State.pending, State.pending, State.set_channel, ByteArray.append_assoc]
    by_cases hstream : stream = changed
    · rw [hstream, State.set_side_self, hsame]
    · rw [State.set_side_of_ne s side hstream, hother stream hstream, ByteArray.append_empty]

/-- What a pump sends moves from its hands to the end of the channel. -/
theorem Accounted.send
    {sinks : Sinks} {events : List Event} {s : State} {stream sender : Stream} {message : Message}
    (h : Accounted sinks events s stream)
    (hmessage : (s.side sender).pump.message? sender = some message) :
    Accounted sinks (events ++ [.send sender message])
      ((s.set sender ((s.side sender).turn (s.side sender).pump.released)).push message)
      stream := by
  obtain ⟨accepted, rest, hcontent, hwritten, hrest⟩ := h
  refine ⟨accepted, rest, hcontent, ?_, ?_⟩
  · rw [written_of_silent (by rfl), hwritten]
  · intro hloop
    rw [hrest hloop, State.pending, State.pending, State.push_channel, State.set_channel,
      gather_append, gather_singleton, ByteArray.append_assoc, State.push_side]
    by_cases hstream : stream = sender
    · subst hstream
      obtain ⟨hheld, hreleased⟩ := Pump.held_eq_bytesFor hmessage
      simp [Side.unsent, hheld, hreleased]
    · rw [Pump.bytesFor_of_ne hmessage hstream, ByteArray.empty_append]
      simp [State.set_side_of_ne s _ hstream]

/-- What the loop receives moves from the front of the channel to the sink, as far as the sink takes
it. -/
theorem Accounted.receive
    {sinks next : Sinks} {events : List Event} {s : State} {stream : Stream} {message : Message}
    {channel : List Message} {answer : Except IoError Unit}
    (h : Accounted sinks events s stream) (hloop : s.loop = .running)
    (hchannel : s.channel = message :: channel)
    (hforward : forward [message] s.sinks = (answer, next)) :
    Accounted sinks (events ++ [.receive message answer])
      ⟨s.side, channel, .after answer, next⟩ stream := by
  obtain ⟨accepted, rest, hcontent, hwritten, hrest⟩ := h
  obtain ⟨taken, lost, htaken, hbytes, hlost⟩ := forward_singleton_content hforward stream
  have hpending : rest = taken ++ lost ++
      (gather (Message.bytesFor stream) channel ++ (s.side stream).unsent) := by
    rw [hrest (by rw [hloop]; nofun), State.pending, hchannel, gather, hbytes,
      ByteArray.append_assoc]
  refine ⟨accepted ++ taken, lost ++
    (gather (Message.bytesFor stream) channel ++ (s.side stream).unsent), ?_, ?_, ?_⟩
  · rw [htaken, hcontent, ByteArray.append_assoc]
  · rw [written_of_silent (by rfl), hwritten, hpending]
    simp only [ByteArray.append_assoc]
  · intro hunfailed
    cases answer with
    | ok done => rw [hlost rfl, ByteArray.empty_append, State.pending]
    | error cause => exact absurd rfl (hunfailed cause)

theorem Step.accounted
    {sinks : Sinks} {events : List Event} {s t : State} {event : Event} {stream : Stream}
    (step : Step s event t) (hs : s.Settled) (h : Accounted sinks events s stream) :
    Accounted sinks (events ++ [event]) t stream := by
  cases step with
  | write bytes hopen =>
      refine h.set ?_ ?_
      · simp [Side.unsent, Event.writtenTo, ByteArray.append_assoc]
      · intro other hother
        simp [Event.writtenTo, hother.symm]
  | close hopen => exact h.set ByteArray.append_empty.symm fun _ _ => rfl
  | read hpump hoffers =>
      exact h.set ((hoffers.unsent_eq hpump).trans ByteArray.append_empty.symm) fun _ _ => rfl
  | send hmessage => exact h.send hmessage
  | refuse hmessage hloop =>
      obtain ⟨accepted, rest, hcontent, hwritten, -⟩ := h
      refine ⟨accepted, rest, hcontent, ?_, ?_⟩
      · rw [written_of_silent (by rfl), hwritten]
      · intro hunfailed
        obtain ⟨cause, hfailed⟩ := hs.exists_failed hmessage hloop
        exact absurd hfailed (hunfailed cause)
  | receive hloop hchannel hforward => exact h.receive hloop hchannel hforward
  | finish hloop hchannel hpumps =>
      obtain ⟨accepted, rest, hcontent, hwritten, hrest⟩ := h
      refine ⟨accepted, rest, hcontent, ?_, ?_⟩
      · rw [written_of_silent (by rfl), hwritten]
      · intro _
        exact hrest (by rw [hloop]; nofun)

/-- In every run, no byte of a stream gets lost, doubled or out of order, and none of them crosses
over to the other sink. -/
theorem Run.accounted
    {sinks : Sinks} {events : List Event} {s : State} (run : Run (.start sinks) events s)
    (stream : Stream) : Accounted sinks events s stream := by
  induction run with
  | nil => exact ⟨.empty, .empty, ByteArray.append_empty.symm, rfl, fun _ => rfl⟩
  | snoc run step ih => exact step.accounted run.settled ih

end CrossGen.Relay
