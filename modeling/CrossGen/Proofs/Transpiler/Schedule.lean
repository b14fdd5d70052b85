import CrossGen.Proofs.Transpiler.Delivery

/-!
# The program's own schedule

Carrying a task out forwards each piece of the output before the next one is written.  This is one
of the schedules of the relay: whatever a task does to the sinks, and however it ends, a run of the
relay does the same.  So what holds of every run of the relay holds of a task: it passes its output
on in full, or fails with the beginning of it in the sinks.
-/

namespace CrossGen

namespace Relay

/-! ## Cutting -/

theorem size_of_mem_cut
    {bytes piece : ByteArray} (h : piece ∈ cut bytes) :
    1 ≤ piece.size ∧ piece.size ≤ pieceSize := by
  obtain ⟨n, hn, rfl⟩ := List.mem_map.mp h
  rw [List.mem_range] at hn
  rw [ByteArray.size_extract]
  simp only [pieceSize] at hn ⊢
  omega

theorem gather_cut (bytes : ByteArray) : gather id (cut bytes) = bytes := by
  have hprefix : ∀ n, gather id ((List.range n).map fun n =>
      bytes.extract (n * pieceSize) ((n + 1) * pieceSize)) = bytes.extract 0 (n * pieceSize) := by
    intro n
    induction n with
    | zero => simp [gather]
    | succ n ih =>
        rw [List.range_succ, List.map_append, gather_append, ih, List.map_singleton,
          gather_singleton, id, ← ByteArray.extract_eq_extract_append_extract _ (Nat.zero_le _)
            (Nat.mul_le_mul_right pieceSize (Nat.le_succ n))]
  have hall : bytes.size ≤ (bytes.size + pieceSize - 1) / pieceSize * pieceSize := by
    simp only [pieceSize]
    omega
  rw [cut, hprefix, ← Nat.max_eq_left hall, ByteArray.extract_zero_max_size]

/-! ## One piece after the other -/

theorem State.set_set (s : State) (stream : Stream) (side other : Side) :
    (s.set stream side).set stream other = s.set stream other := by
  simp [set]

/-- The state in which only these bytes of a stream are still to be read. -/
def State.unread (stream : Stream) (pipe : ByteArray) (sinks : Sinks) : State :=
  (start sinks).set stream ⟨true, pipe, .reading⟩

theorem State.unread_side (stream : Stream) (pipe : ByteArray) (sinks : Sinks) :
    (unread stream pipe sinks).side stream = ⟨true, pipe, .reading⟩ :=
  set_side_self (start sinks) stream _

theorem State.unread_set (stream : Stream) (pipe : ByteArray) (sinks : Sinks) (side : Side) :
    (unread stream pipe sinks).set stream side = (start sinks).set stream side :=
  set_set (start sinks) stream _ side

theorem State.unread_empty (stream : Stream) (sinks : Sinks) :
    unread stream .empty sinks = start sinks := by
  simp [unread, start, set]

theorem Step.write_of_side
    {s : State} {stream : Stream} {pipe : ByteArray} {pump : Pump}
    (hside : s.side stream = ⟨true, pipe, pump⟩) (bytes : ByteArray) :
    Step s (.write stream bytes) (s.set stream ⟨true, pipe ++ bytes, pump⟩) := by
  have hwrite : Step s (.write stream bytes) _ := .write bytes (by rw [hside])
  rw [hside] at hwrite
  exact hwrite

theorem Step.read_of_side
    {s : State} {stream : Stream} {isOpen : Bool} {piece rest : ByteArray}
    (hside : s.side stream = ⟨isOpen, piece ++ rest, .reading⟩)
    (hsize : 1 ≤ piece.size ∧ piece.size ≤ pieceSize) :
    Step s (.read stream (.piece piece)) (s.set stream ⟨isOpen, rest, .holding piece⟩) := by
  have hoffers : (s.side stream).Offers (.piece piece) rest :=
    .piece piece rest hsize.1 hsize.2 (by rw [hside])
  have hread := Step.read (by rw [hside]) hoffers
  rw [hside] at hread
  exact hread

theorem Step.send_of_side
    {s : State} {stream : Stream} {isOpen : Bool} {piece pipe : ByteArray}
    (hside : s.side stream = ⟨isOpen, pipe, .holding piece⟩) :
    Step s (.send stream (.piece stream piece))
      ((s.set stream ⟨isOpen, pipe, .reading⟩).push (.piece stream piece)) := by
  have hsend : Step s (.send stream (.piece stream piece)) _ := .send (by rw [hside]; rfl)
  rw [hside] at hsend
  exact hsend

/-- A piece that is read is sent and received before anything else happens. -/
theorem exists_run_piece
    {stream : Stream} {piece : ByteArray} (rest : ByteArray) {sinks next : Sinks}
    {answer : Except IoError Unit} (hsize : 1 ≤ piece.size ∧ piece.size ≤ pieceSize)
    (hforward : forward [.piece stream piece] sinks = (answer, next)) :
    ∃ events, Run (.unread stream (piece ++ rest) sinks) events
        ⟨(State.unread stream rest next).side, [], .after answer, next⟩ ∧
      ∀ other, written other events = .empty := by
  have hread := Step.read_of_side (State.unread_side stream (piece ++ rest) sinks) hsize
  rw [State.unread_set] at hread
  have hsend := Step.send_of_side
    (State.set_side_self (.start sinks) stream ⟨true, rest, .holding piece⟩)
  rw [State.set_set, ← State.unread] at hsend
  have hreceive : Step ((State.unread stream rest sinks).push (.piece stream piece))
      (.receive (.piece stream piece) answer)
      ⟨(State.unread stream rest next).side, [], .after answer, next⟩ :=
    .receive rfl rfl hforward
  exact ⟨_, .cons hread <| .cons hsend <| .cons hreceive .nil, fun _ => rfl⟩

/-- All pieces of a stream, one after the other, until the sink does not take one. -/
theorem exists_run_pieces
    {stream : Stream} {pieces : List ByteArray} {sinks next : Sinks}
    {answer : Except IoError Unit}
    (hsize : ∀ piece ∈ pieces, 1 ≤ piece.size ∧ piece.size ≤ pieceSize)
    (hforward : forward (pieces.map (.piece stream)) sinks = (answer, next)) :
    ∃ events t, Run (.unread stream (gather id pieces) sinks) events t ∧
      (∀ other, written other events = .empty) ∧
      t.sinks = next ∧ t.loop = .after answer ∧ (answer = .ok () → t = .start next) := by
  induction pieces generalizing sinks with
  | nil =>
      cases hforward
      rw [gather, State.unread_empty]
      exact ⟨[], _, .nil, fun _ => rfl, rfl, rfl, fun _ => rfl⟩
  | cons piece rest ih =>
      obtain ⟨hpiece, hrest⟩ := List.forall_mem_cons.mp hsize
      rw [List.map_cons, ← List.singleton_append] at hforward
      rw [gather, id]
      rcases hfirst : forward [.piece stream piece] sinks with ⟨result, middle⟩
      obtain ⟨events, run, hsilent⟩ := exists_run_piece (gather id rest) hpiece hfirst
      cases result with
      | error cause =>
          rw [forward_append_of_error hfirst] at hforward
          cases hforward
          refine ⟨events, _, run, hsilent, rfl, rfl, ?_⟩
          intro hok
          cases hok
      | ok done =>
          rw [forward_append_of_ok hfirst] at hforward
          obtain ⟨more, t, continuation, hstill, hend⟩ := ih hrest hforward
          refine ⟨events ++ more, t, run.append continuation, ?_, hend⟩
          intro other
          rw [written_append, hsilent, hstill, ByteArray.append_empty]

def outputOn (stream : Stream) (output : List (Stream × ByteArray)) : ByteArray :=
  gather (fun piece => if piece.1 = stream then piece.2 else .empty) output

/-- What a program writes is written and relayed piece by piece, until a sink does not take it. -/
theorem exists_run_output
    {output : List (Stream × ByteArray)} {sinks next : Sinks} {answer : Except IoError Unit}
    (hforward : forward (messages output) sinks = (answer, next)) :
    ∃ events t, Run (.start sinks) events t ∧
      (∀ stream, ∃ left, outputOn stream output = written stream events ++ left ∧
        (answer = .ok () → left = .empty)) ∧
      t.sinks = next ∧ (answer = .ok () → t = .start next) ∧
      ∀ cause, answer = .error cause → t.loop = .failed cause := by
  induction output generalizing sinks with
  | nil =>
      cases hforward
      exact ⟨[], _, .nil, fun _ => ⟨.empty, rfl, fun _ => rfl⟩, rfl, fun _ => rfl, nofun⟩
  | cons piece rest ih =>
      obtain ⟨stream, bytes⟩ := piece
      have hmessages : messages ((stream, bytes) :: rest) =
          messages [(stream, bytes)] ++ messages rest := by
        simp [messages]
      rw [hmessages] at hforward
      rcases hfirst : forward (messages [(stream, bytes)]) sinks with ⟨result, middle⟩
      have hpieces : messages [(stream, bytes)] = (cut bytes).map (.piece stream) := by
        simp [messages]
      have hwrite := Step.write_of_side (by rfl : (State.start sinks).side stream = _) bytes
      rw [ByteArray.empty_append] at hwrite
      obtain ⟨events, t, run, hsilent, hsinks, hloop, hready⟩ :=
        exists_run_pieces (fun _ => size_of_mem_cut) (hpieces ▸ hfirst)
      rw [gather_cut] at run
      cases result with
      | error cause =>
          rw [forward_append_of_error hfirst] at hforward
          cases hforward
          refine ⟨_, t, run.cons hwrite, ?_, hsinks, nofun, ?_⟩
          · intro other
            refine ⟨outputOn other rest, ?_, nofun⟩
            rw [written_cons, hsilent, ByteArray.append_empty]
            rfl
          · intro met hanswer
            cases hanswer
            exact hloop
      | ok done =>
          rw [forward_append_of_ok hfirst] at hforward
          obtain ⟨more, u, continuation, houtput, hend⟩ := ih hforward
          rw [hready rfl] at run
          refine ⟨_, u, (run.append continuation).cons hwrite, ?_, hend⟩
          intro other
          obtain ⟨left, hleft, hempty⟩ := houtput other
          refine ⟨left, ?_, hempty⟩
          rw [written_cons, written_append, hsilent, ByteArray.empty_append,
            ByteArray.append_assoc, ← hleft]
          rfl

/-! ## After the program has ended -/

theorem exists_run_closed (s : State) :
    ∃ events t, Run s events t ∧ t.Closed ∧ ∀ stream, written stream events = .empty := by
  have hclose (s : State) (stream : Stream) :
      ∃ events t, Run s events t ∧ (∀ other, written other events = .empty) ∧
        (t.side stream).isOpen = false ∧
        ∀ other, (s.side other).isOpen = false → (t.side other).isOpen = false := by
    cases hopen : (s.side stream).isOpen with
    | false => exact ⟨[], s, .nil, fun _ => rfl, hopen, fun _ h => h⟩
    | true =>
        refine ⟨_, _, .cons (.close hopen) .nil, fun _ => rfl, by simp, ?_⟩
        intro other hother
        by_cases hstream : other = stream
        · rw [hstream, State.set_side_self, Side.shut_isOpen]
        · rw [State.set_side_of_ne s _ hstream, hother]
  obtain ⟨events, t, run, hsilent, hout, -⟩ := hclose s .out
  obtain ⟨more, u, continuation, hquiet, herr, hstill⟩ := hclose t .err
  refine ⟨events ++ more, u, run.append continuation, ?_, ?_⟩
  · intro stream
    cases stream with
    | out => exact hstill .out hout
    | err => exact herr
  · intro stream
    rw [written_append, hsilent, hquiet, ByteArray.append_empty]

/-- When all has been relayed and the program ends, both pumps find their streams at the end, and
the loop finishes. -/
theorem exists_run_finished (sinks : Sinks) :
    ∃ events t, Run (.start sinks) events t ∧ (∀ stream, written stream events = .empty) ∧
      t.Over ∧ t.loop = .finished ∧ t.sinks = sinks := by
  refine ⟨_, _, .cons (.close (by rfl : ((State.start sinks).side .out).isOpen = true)) <|
    .cons (.close (by rfl : (State.side _ .err).isOpen = true)) <|
    .cons (.read rfl (.closed (by rfl : (State.side _ .out).isOpen = false) rfl)) <|
    .cons (.read rfl (.closed (by rfl : (State.side _ .err).isOpen = false) rfl)) <|
    .cons (.finish rfl rfl ?_) .nil, fun _ => rfl, ⟨nofun, ?_⟩, rfl, rfl⟩
  · intro stream
    cases stream with
    | out => rfl
    | err => rfl
  · intro stream
    cases stream with
    | out => rfl
    | err => rfl

/-- After a failure the pumps come to their ends, and the sinks stay as they are. -/
theorem exists_run_over_of_failed
    {s : State} {cause : IoError} (hfailed : s.loop = .failed cause) :
    ∃ events t, Run s events t ∧ (∀ stream, written stream events = .empty) ∧
      t.Over ∧ t.loop = .failed cause ∧ t.sinks = s.sinks := by
  obtain ⟨events, t, run, hclosed, hsilent⟩ := exists_run_closed s
  obtain ⟨more, u, continuation, hover⟩ := exists_run_over hclosed
  have hall := run.append continuation
  refine ⟨events ++ more, u, hall, ?_, hover, hall.of_failed hfailed⟩
  intro stream
  rw [written_append, hsilent, (continuation.written_of_closed hclosed stream).2,
    ByteArray.append_empty]

end Relay

/-! ## Tasks -/

/-- Whatever a task does once its program is started, the relay does in one of its runs: it ends
with the same sinks, and its verdict on how the program ended is the result of the task. -/
theorem Task.exists_run_of_execute
    {task : Task} {program : String} {host started : Host} {outcome : Outcome}
    (hexecute : Host.execute true (task.command program) host = .ok outcome started) :
    ∃ events s, Relay.Run (.start started.sinks) events s ∧ s.Over ∧
      (∀ stream, ∃ left,
        Relay.outputOn stream outcome.output = Relay.written stream events ++ left ∧
          (s.loop = .finished → left = .empty)) ∧
      ((∃ final, task.run program host = .ok () final ∧ final.sinks = s.sinks ∧
          verdict (task.command program) outcome.ending s.loop.answer = .ok ()) ∨
        ∃ e final, task.run program host = .error e final ∧ final.sinks = s.sinks ∧
          verdict (task.command program) outcome.ending s.loop.answer = .error e) := by
  have hrun : task.run program host =
      (do
        forwardUntil outcome.leaving outcome.output
        Host.failAs .tool (Host.ofExcept
          (Host.checkEnding (task.command program) outcome.ending))) started := by
    simp only [Task.run, bind, EStateM.bind, Host.failAs, hexecute]
  rw [hrun]
  rcases hforward : Relay.forward (Relay.messages outcome.output) started.sinks with
    ⟨answer, sinks⟩
  obtain ⟨events, s, run, houtput, hsinks, hready, hfailed⟩ := Relay.exists_run_output hforward
  cases answer with
  | error cause =>
      obtain ⟨more, t, continuation, hsilent, hover, hloop, hstill⟩ :=
        Relay.exists_run_over_of_failed (hfailed cause rfl)
      refine ⟨events ++ more, t, run.append continuation, hover, ?_, .inr ?_⟩
      · intro stream
        obtain ⟨left, hleft, -⟩ := houtput stream
        refine ⟨left, ?_, by rw [hloop]; nofun⟩
        rw [Relay.written_append, hsilent, ByteArray.append_empty, hleft]
      · simp only [bind, EStateM.bind, forwardUntil, forwardOutput, hforward]
        exact ⟨_, _, rfl, by rw [hstill, hsinks], by rw [hloop, Relay.Loop.answer, verdict]⟩
  | ok done =>
      obtain ⟨more, t, continuation, hsilent, hover, hloop, hstill⟩ :=
        Relay.exists_run_finished sinks
      rw [hready rfl] at run
      refine ⟨events ++ more, t, run.append continuation, hover, ?_, ?_⟩
      · intro stream
        obtain ⟨left, hleft, hempty⟩ := houtput stream
        refine ⟨left, ?_, fun _ => hempty rfl⟩
        rw [Relay.written_append, hsilent, ByteArray.append_empty, hleft]
      · simp only [bind, EStateM.bind, forwardUntil, forwardOutput, hforward, hloop,
          Relay.Loop.answer, verdict]
        cases Host.checkEnding (task.command program) outcome.ending with
        | ok done => exact .inl ⟨_, rfl, hstill.symm, rfl⟩
        | error e => exact .inr ⟨_, _, rfl, hstill.symm, rfl⟩

/-- Once its program is started, a task passes all of the output on and ends as the program did, or
it fails to pass the output on, and the sinks hold the beginning of it. -/
theorem Task.run_passes_output_on
    {task : Task} {program : String} {host started : Host} {outcome : Outcome}
    (hexecute : Host.execute true (task.command program) host = .ok outcome started) :
    ∃ final,
      ((task.run program host =
          (if outcome.ending.isSuccess then .ok () final
          else .error (.tool (.failed (Command.told program) outcome.ending.status?)) final)) ∧
        ∀ stream, (final.sinks.sink stream).content =
          (started.sinks.sink stream).content ++ Relay.outputOn stream outcome.output) ∨
      ∃ cause, task.run program host = .error (.forwarding cause) final ∧
        ∀ stream, ∃ accepted left,
          (final.sinks.sink stream).content = (started.sinks.sink stream).content ++ accepted ∧
            Relay.outputOn stream outcome.output = accepted ++ left := by
  obtain ⟨events, s, run, hover, houtput, hresult⟩ := exists_run_of_execute hexecute
  cases hloop : s.loop with
  | running => exact absurd hloop hover.1
  | finished =>
      have hcauses : Relay.causes events = [] := by
        by_contra hfailures
        obtain ⟨cause, -, hfailed⟩ := run.loop_failed hfailures hover
        rw [hloop] at hfailed
        cases hfailed
      have hcontent : ∀ stream, (s.sinks.sink stream).content =
          (started.sinks.sink stream).content ++ Relay.outputOn stream outcome.output := by
        intro stream
        obtain ⟨left, hleft, hempty⟩ := houtput stream
        rw [run.content_eq hcauses hover, hleft, hempty hloop, ByteArray.append_empty]
      simp only [hloop, Relay.Loop.answer, verdict_ok] at hresult
      rcases hresult with ⟨final, hrun, hsinks, hverdict⟩ | ⟨e, final, hrun, hsinks, hverdict⟩
      · refine ⟨final, .inl ⟨?_, by rw [hsinks]; exact hcontent⟩⟩
        split at hverdict
        · rw [hrun, if_pos ‹_›]
        · cases hverdict
      · refine ⟨final, .inl ⟨?_, by rw [hsinks]; exact hcontent⟩⟩
        split at hverdict
        · cases hverdict
        · cases hverdict
          rw [hrun, if_neg ‹_›]
          rfl
  | failed cause =>
      simp only [hloop, Relay.Loop.answer, verdict] at hresult
      rcases hresult with ⟨final, hrun, hsinks, hverdict⟩ | ⟨e, final, hrun, hsinks, hverdict⟩
      · cases hverdict
      · cases hverdict
        refine ⟨final, .inr ⟨cause, hrun, ?_⟩⟩
        intro stream
        obtain ⟨accepted, rest, hcontent, hwritten, -⟩ := run.accounted stream
        obtain ⟨left, hleft, -⟩ := houtput stream
        refine ⟨accepted, rest ++ left, by rw [hsinks, hcontent], ?_⟩
        rw [hleft, hwritten, ByteArray.append_assoc]

end CrossGen
