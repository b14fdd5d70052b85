import Mathlib.Data.Seq.Basic
import CrossGen.Proofs.Transpiler.Relaying

/-!
# A pump at work

`pump` says at once what becomes of a list of readings.  This module describes a pump that works
step by step: it asks for one reading after the other, and the answers may go on for ever or come to
an end; it reads into one buffer again and again; and it learns that its receiver has gone away only
when it tries to send.  What such a pump may do in one step is said once, in `Pumping.Step`.
-/

namespace CrossGen.Relay

/-! ## Readings -/

namespace Reading

/-- The message for a reading: a piece as it is, under the name of its stream, or a failure. -/
def message? (stream : Stream) : Reading → Option Message
  | .piece bytes => some (.piece stream bytes)
  | .failed cause => some (.failed cause)
  | .interrupted | .closed => none

def isLast : Reading → Bool
  | .failed _ | .closed => true
  | .piece _ | .interrupted => false

end Reading

/-- Readings that are not last ones are all dealt with before those behind them. -/
theorem pump_append
    (stream : Stream) {before : List Reading} (hopen : ∀ reading ∈ before, reading.isLast = false)
    (room : ℕ) (rest : List Reading) :
    pump stream ((before.filterMap (Reading.message? stream)).length + room) (before ++ rest) =
      (pump stream room rest).behind (before.filterMap (Reading.message? stream)) := by
  induction before with
  | nil => simp [Pumped.behind]
  | cons reading before ih =>
      obtain ⟨hreading, hbefore⟩ := List.forall_mem_cons.mp hopen
      have hrest := ih hbefore
      cases reading with
      | piece bytes =>
          have hroom (k : ℕ) : k + 1 + room = k + room + 1 := by omega
          rw [List.filterMap_cons_some (by rfl), List.length_cons, hroom, List.cons_append, pump,
            hrest, Pumped.behind, Pumped.behind, List.cons_append]
      | interrupted => rwa [List.filterMap_cons_none (by rfl), List.cons_append, pump]
      | failed cause => cases hreading
      | closed => cases hreading

/-- Where all its messages are taken, the pump ends with the first last reading. -/
theorem pump_last
    (stream : Stream) {before : List Reading} (hopen : ∀ reading ∈ before, reading.isLast = false)
    {last : Reading} (hlast : last.isLast = true) {room : ℕ}
    (hroom : ((before ++ [last]).filterMap (Reading.message? stream)).length ≤ room)
    (rest : List Reading) :
    pump stream room (before ++ last :: rest) =
      ⟨(before ++ [last]).filterMap (Reading.message? stream), rest⟩ := by
  rw [filterMap_snoc, List.length_append] at hroom
  obtain ⟨more, rfl⟩ := Nat.exists_eq_add_of_le hroom
  rw [filterMap_snoc, Nat.add_assoc, pump_append stream hopen]
  cases last with
  | piece bytes => cases hlast
  | interrupted => cases hlast
  | failed cause =>
      have hone : [Message.failed cause].length + more = more + 1 := Nat.add_comm 1 more
      rw [Reading.message?, Option.toList_some, hone, pump]
      rfl
  | closed => rfl

/-- Where all its messages are taken and no reading is a last one, the pump comes to no end. -/
theorem pump_awaited
    (stream : Stream) {readings : List Reading}
    (hopen : ∀ reading ∈ readings, reading.isLast = false) {room : ℕ}
    (hroom : (readings.filterMap (Reading.message? stream)).length ≤ room) :
    pump stream room readings = ⟨readings.filterMap (Reading.message? stream), []⟩ := by
  obtain ⟨more, rfl⟩ := Nat.exists_eq_add_of_le hroom
  have happend := pump_append stream hopen more []
  rw [List.append_nil] at happend
  rw [happend, pump, Pumped.behind, List.append_nil]

/-- The first message that is not taken is the end of the pump. -/
theorem pump_refused
    (stream : Stream) {before : List Reading} (hopen : ∀ reading ∈ before, reading.isLast = false)
    {reading : Reading} {message : Message} (hmessage : reading.message? stream = some message)
    (rest : List Reading) :
    pump stream (before.filterMap (Reading.message? stream)).length (before ++ reading :: rest) =
      ⟨before.filterMap (Reading.message? stream), rest⟩ := by
  have hpump : pump stream 0 (reading :: rest) = ⟨[], rest⟩ := by
    cases reading with
    | piece bytes => rfl
    | interrupted => cases hmessage
    | failed cause => rfl
    | closed => cases hmessage
  have happend := pump_append stream hopen 0 (reading :: rest)
  rw [hpump, Nat.add_zero] at happend
  rw [happend, Pumped.behind, List.append_nil]

/-! ## The stages of a pump -/

namespace Pump

/-- Whether a pump may still come to read. -/
def mayRead : Pump → Bool
  | .reading | .holding _ => true
  | .failing _ | .ended => false

theorem mayRead_after (reading : Reading) : (after reading).mayRead = !reading.isLast := by
  cases reading with
  | piece bytes => rfl
  | interrupted => rfl
  | failed cause => rfl
  | closed => rfl

theorem mayRead_of_released {pump : Pump} (h : pump.released.mayRead = true) :
    pump.mayRead = true := by
  cases pump with
  | reading => rfl
  | holding bytes => rfl
  | failing cause => cases h
  | ended => cases h

theorem message?_after (reading : Reading) (stream : Stream) :
    (after reading).message? stream = reading.message? stream := by
  cases reading with
  | piece bytes => rfl
  | interrupted => rfl
  | failed cause => rfl
  | closed => rfl

theorem message?_released (pump : Pump) (stream : Stream) :
    pump.released.message? stream = none := by
  cases pump with
  | reading => rfl
  | holding bytes => rfl
  | failing cause => rfl
  | ended => rfl

theorem eq_closed_of_after {reading : Reading} (h : after reading = .ended) :
    reading = .closed := by
  cases reading with
  | piece bytes => cases h
  | interrupted => cases h
  | failed cause => cases h
  | closed => rfl

theorem exists_todo
    {pump : Pump} {stream : Stream} {message : Message}
    (hmessage : pump.message? stream = some message) :
    ∃ reading, pump.todo? = some [reading] ∧ reading.message? stream = some message := by
  cases pump with
  | reading => cases hmessage
  | holding bytes => exact ⟨.piece bytes, rfl, hmessage⟩
  | failing cause => exact ⟨.failed cause, rfl, hmessage⟩
  | ended => cases hmessage

end Pump

/-! ## The buffer -/

/-- What a call that reads returns: how many bytes are now at the beginning of the buffer, or why
there are none. -/
inductive Returned where
  | count (taken : ℕ)
  | interrupted
  | failed (cause : IoError)

namespace Reading

/-- A stream is at its end when a call succeeds and has read nothing. -/
def returned : Reading → Returned
  | .piece bytes => .count bytes.size
  | .interrupted => .interrupted
  | .failed cause => .failed cause
  | .closed => .count 0

/-- What a call leaves in the buffer.  The bytes of a piece replace as many of the old ones, and
those behind them stay. -/
def fill (buffer : ByteArray) : Reading → ByteArray
  | .piece bytes => (bytes ++ buffer.extract bytes.size buffer.size).extract 0 buffer.size
  | .interrupted | .failed _ | .closed => buffer

theorem size_fill (reading : Reading) (buffer : ByteArray) :
    (reading.fill buffer).size = buffer.size := by
  cases reading with
  | piece bytes =>
      rw [fill, ByteArray.size_extract, ByteArray.size_append, ByteArray.size_extract]
      omega
  | interrupted => rfl
  | failed cause => rfl
  | closed => rfl

theorem extract_fill {bytes buffer : ByteArray} (h : bytes.size ≤ buffer.size) :
    ((Reading.piece bytes).fill buffer).extract 0 bytes.size = bytes := by
  rw [fill, ByteArray.extract_extract, Nat.zero_add, Nat.zero_add, Nat.min_eq_left h,
    ByteArray.extract_append_eq_left rfl]

end Reading

/-- What a pump turns to when a call has returned.  It holds a copy of the bytes that were read. -/
def Pump.next (buffer : ByteArray) : Returned → Pump
  | .count taken => if taken = 0 then .ended else .holding (buffer.extract 0 taken)
  | .interrupted => .reading
  | .failed cause => .failing cause

/-- Whatever earlier readings have left in the buffer, the pump holds what it has just read. -/
theorem Pump.next_fill
    {reading : Reading} {buffer : ByteArray}
    (hfits : ∀ bytes, reading = .piece bytes → 1 ≤ bytes.size ∧ bytes.size ≤ buffer.size) :
    Pump.next (reading.fill buffer) reading.returned = .after reading := by
  cases reading with
  | piece bytes =>
      obtain ⟨hpos, hle⟩ := hfits bytes rfl
      rw [Reading.returned, next, if_neg (by omega), Reading.extract_fill hle, after]
  | interrupted => rfl
  | failed cause => rfl
  | closed => rfl

/-! ## One step -/

/-- The pump of a stream at work: its buffer, what it is about to do, and what it has done. -/
structure Pumping (stream : Stream) where
  buffer : ByteArray
  stage : Pump
  past : List Event

namespace Pumping

section

variable {stream : Stream} (p : Pumping stream)

def readings : List Reading :=
  p.past.filterMap (Event.readBy? stream)

def sent : List Message :=
  p.past.filterMap (Event.sentBy? stream)

def held? : Option Message :=
  p.stage.message? stream

def read (reading : Reading) : Pumping stream :=
  { buffer := reading.fill p.buffer
    stage := .next (reading.fill p.buffer) reading.returned
    past := p.past ++ [.read stream reading] }

/-- The pump tries to send a message, and goes on if somebody is there to receive it. -/
def offer (isHeard : Bool) (message : Message) : Pumping stream :=
  if isHeard then
    { p with stage := p.stage.released, past := p.past ++ [.send stream message] }
  else { p with stage := .ended, past := p.past ++ [.refuse stream message] }

/-- One step.  Behind the last answer the pump waits, and when it has ended it does nothing. -/
def step (answers : Stream'.Seq Reading) (isHeard : Bool) : Pumping stream :=
  match p.stage with
  | .reading =>
    match answers.get? p.readings.length with
    | some reading => p.read reading
    | none => p
  | .holding bytes => p.offer isHeard (.piece stream bytes)
  | .failing cause => p.offer isHeard (.failed cause)
  | .ended => p

/-- What can happen in a step. -/
inductive Step (answers : Stream'.Seq Reading) (isHeard : Prop) (next : Pumping stream) : Prop
  | read {reading : Reading}
      (hstage : p.stage = .reading) (hanswer : answers.get? p.readings.length = some reading)
      (hnext : next.stage = .after reading) (hpast : next.past = p.past ++ [.read stream reading])
      (hreadings : next.readings = p.readings ++ [reading]) (hsent : next.sent = p.sent)
  | send {message : Message}
      (hheld : p.held? = some message) (hheard : isHeard)
      (hnext : next.stage = p.stage.released) (hpast : next.past = p.past ++ [.send stream message])
      (hreadings : next.readings = p.readings) (hsent : next.sent = p.sent ++ [message])
  | refuse {message : Message}
      (hheld : p.held? = some message) (hheard : ¬ isHeard)
      (hnext : next.stage = .ended) (hpast : next.past = p.past ++ [.refuse stream message])
      (hreadings : next.readings = p.readings) (hsent : next.sent = p.sent)
  | rest
      (hidle : p.stage = .ended ∨ p.stage = .reading ∧ answers.get? p.readings.length = none)
      (hnext : next = p)

end

variable {stream : Stream} {p next : Pumping stream} {answers : Stream'.Seq Reading}

theorem size_buffer_step (answers : Stream'.Seq Reading) (isHeard : Bool) :
    (p.step answers isHeard).buffer.size = p.buffer.size := by
  have hoffer : ∀ message, (p.offer isHeard message).buffer = p.buffer := by
    intro message
    cases isHeard with
    | true => rfl
    | false => rfl
  rw [step]
  split
  · split
    · exact Reading.size_fill _ p.buffer
    · rfl
  · rw [hoffer]
  · rw [hoffer]
  · rfl

theorem step_read
    {reading : Reading} (isHeard : Prop)
    (hfits : ∀ bytes, reading = .piece bytes → 1 ≤ bytes.size ∧ bytes.size ≤ p.buffer.size)
    (hstage : p.stage = .reading) (hanswer : answers.get? p.readings.length = some reading) :
    p.Step answers isHeard (p.read reading) := by
  refine .read hstage hanswer (Pump.next_fill hfits) rfl ?_ ?_
  · simp [read, readings, Event.readBy?]
  · simp [read, sent, Event.sentBy?]

theorem step_offer (isHeard : Bool) {message : Message} (hheld : p.held? = some message) :
    p.Step answers (isHeard = true) (p.offer isHeard message) := by
  cases isHeard with
  | true =>
      refine .send hheld rfl rfl rfl ?_ ?_
      · simp [offer, readings, Event.readBy?]
      · simp [offer, sent, Event.sentBy?]
  | false =>
      refine .refuse hheld Bool.false_ne_true rfl rfl ?_ ?_
      · simp [offer, readings, Event.readBy?]
      · simp [offer, sent, Event.sentBy?]

/-- A step is one of those that can happen, if what is read fits the buffer. -/
theorem step_step
    (isHeard : Bool)
    (hfits : ∀ bytes, .piece bytes ∈ answers → 1 ≤ bytes.size ∧ bytes.size ≤ p.buffer.size) :
    p.Step answers (isHeard = true) (p.step answers isHeard) := by
  rw [step]
  split
  · next hstage =>
    split
    · next reading hanswer =>
      refine step_read _ ?_ hstage hanswer
      rintro bytes rfl
      exact hfits bytes (Stream'.Seq.get?_mem hanswer)
    · next hanswer => exact .rest (.inr ⟨hstage, hanswer⟩) rfl
  · next hstage => exact step_offer isHeard (by rw [held?, hstage]; rfl)
  · next hstage => exact step_offer isHeard (by rw [held?, hstage]; rfl)
  · next hstage => exact .rest (.inl hstage) rfl

theorem held?_of_reading (hstage : p.stage = .reading) : p.held? = none := by
  rw [held?, hstage]
  rfl

theorem held?_of_ended (hstage : p.stage = .ended) : p.held? = none := by
  rw [held?, hstage]
  rfl

theorem Step.of_reading
    {isHeard : Prop} {reading : Reading} (step : p.Step answers isHeard next)
    (hstage : p.stage = .reading) (hanswer : answers.get? p.readings.length = some reading) :
    next.stage = .after reading ∧ next.readings = p.readings ++ [reading] := by
  have hnone := held?_of_reading hstage
  cases step with
  | read hreading hother hnext hpast hreadings hsent =>
      rw [hanswer] at hother
      cases hother
      exact ⟨hnext, hreadings⟩
  | send hheld hheard hnext hpast hreadings hsent =>
      rw [hnone] at hheld
      cases hheld
  | refuse hheld hheard hnext hpast hreadings hsent =>
      rw [hnone] at hheld
      cases hheld
  | rest hidle hnext =>
      rw [hstage, hanswer] at hidle
      simp at hidle

/-- A message that a pump holds is sent or refused at once. -/
theorem Step.of_held
    {isHeard : Prop} {message : Message} (step : p.Step answers isHeard next)
    (hheld : p.held? = some message) :
    next.readings = p.readings ∧
      (isHeard ∧ next.stage = p.stage.released ∨
        ¬ isHeard ∧ next.stage = .ended ∧ next.past = p.past ++ [.refuse stream message]) := by
  cases step with
  | read hstage hanswer hnext hpast hreadings hsent =>
      rw [held?_of_reading hstage] at hheld
      cases hheld
  | send hother hheard hnext hpast hreadings hsent => exact ⟨hreadings, .inl ⟨hheard, hnext⟩⟩
  | refuse hother hheard hnext hpast hreadings hsent =>
      rw [hheld] at hother
      cases hother
      exact ⟨hreadings, .inr ⟨hheard, hnext, hpast⟩⟩
  | rest hidle hnext =>
      rcases hidle with hended | ⟨hstage, -⟩
      · rw [held?_of_ended hended] at hheld
        cases hheld
      · rw [held?_of_reading hstage] at hheld
        cases hheld

end Pumping

/-! ## All steps -/

/-- What a pump works with: its stream, what its attempts to read give, one after the other, and the
number of its steps for which somebody receives.  If the answers come to an end, nothing ever comes
of the attempt behind the last of them.  A piece is not empty and fits the buffer. -/
structure Setting where
  stream : Stream
  answers : Stream'.Seq Reading
  stays : ℕ∞
  fits : ∀ bytes, .piece bytes ∈ answers → 1 ≤ bytes.size ∧ bytes.size ≤ pieceSize

namespace Setting

def pumping (setting : Setting) : ℕ → Pumping setting.stream
  | 0 => ⟨⟨Array.replicate pieceSize 0⟩, .reading, []⟩
  | n + 1 => (setting.pumping n).step setting.answers (decide ((n : ℕ∞) < setting.stays))

theorem size_buffer (setting : Setting) (n : ℕ) :
    (setting.pumping n).buffer.size = pieceSize := by
  induction n with
  | zero => simp [pumping, ByteArray.size]
  | succ n ih => rw [pumping, Pumping.size_buffer_step, ih]

theorem step (setting : Setting) (n : ℕ) :
    (setting.pumping n).Step setting.answers ((n : ℕ∞) < setting.stays)
      (setting.pumping (n + 1)) := by
  have hfits : ∀ bytes, .piece bytes ∈ setting.answers →
      1 ≤ bytes.size ∧ bytes.size ≤ (setting.pumping n).buffer.size := by
    rw [setting.size_buffer]
    exact setting.fits
  have hstep := Pumping.step_step (decide ((n : ℕ∞) < setting.stays)) hfits
  rwa [decide_eq_true_eq] at hstep

end Setting

end CrossGen.Relay
