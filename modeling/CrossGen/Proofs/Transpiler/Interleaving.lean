import Mathlib.Logic.Function.Basic
import Mathlib.Tactic.Simps.Basic
import CrossGen.Transpiler.Relay

/-!
# The interleavings of two pumps and a consumer

While the transpiler runs, one pump for each of its streams and the loop that forwards the messages
work at the same time.  This module describes everything that they can do together, one step after
the other and in any order.  A pump does what `pump` says for its readings, and the loop does what
`forward` says for the messages that it receives.
-/

namespace CrossGen

def Sinks.sink (sinks : Sinks) : Stream → Sink
  | .out => sinks.out
  | .err => sinks.err

namespace Relay

/-! ## States -/

/-- What a pump is about to do: it reads, holds what it has read and not sent yet, or has ended. -/
inductive Pump where
  | reading
  | holding (bytes : ByteArray)
  | failing (cause : IoError)
  | ended
deriving DecidableEq

namespace Pump

/-- What a pump does after a reading. -/
def after : Reading → Pump
  | .piece bytes => .holding bytes
  | .interrupted => .reading
  | .failed cause => .failing cause
  | .closed => .ended

def message? (stream : Stream) : Pump → Option Message
  | .holding bytes => some (.piece stream bytes)
  | .failing cause => some (.failed cause)
  | .reading | .ended => none

def released : Pump → Pump
  | .holding _ => .reading
  | _ => .ended

def held : Pump → ByteArray
  | .holding bytes => bytes
  | _ => .empty

end Pump

/-- A stream of the transpiler between its two ends: whether the transpiler may still write to it,
the bytes that nobody has read yet, and the pump that reads them. -/
structure Side where
  isOpen : Bool
  pipe : ByteArray
  pump : Pump

namespace Side

@[simps] def fill (side : Side) (bytes : ByteArray) : Side :=
  { side with pipe := side.pipe ++ bytes }

@[simps] def shut (side : Side) : Side :=
  { side with isOpen := false }

@[simps] def turn (side : Side) (pump : Pump) : Side :=
  { side with pump := pump }

/-- The pump makes a reading, which leaves `rest` in the stream. -/
@[simps] def take (side : Side) (reading : Reading) (rest : ByteArray) : Side :=
  { side with pipe := rest, pump := .after reading }

end Side

/-- What the next attempt to read from a stream may give, and the bytes that are left in it then.  A
piece is not empty and fits the buffer; the end of the stream is only met behind its last byte. -/
inductive Side.Offers (side : Side) : Reading → ByteArray → Prop
  | piece (bytes rest : ByteArray) (nonempty : 1 ≤ bytes.size) (fits : bytes.size ≤ pieceSize)
      (hpipe : side.pipe = bytes ++ rest) : side.Offers (.piece bytes) rest
  | interrupted : side.Offers .interrupted side.pipe
  | failed (cause : IoError) : side.Offers (.failed cause) side.pipe
  | closed (hopen : side.isOpen = false) (hpipe : side.pipe = .empty) : side.Offers .closed .empty

inductive Loop where
  | running
  | finished
  | failed (cause : IoError)
deriving DecidableEq

namespace Loop

/-- The loop goes on after a message that the sinks took, and not after any other. -/
def after : Except IoError Unit → Loop
  | .ok () => .running
  | .error cause => .failed cause

/-- What the loop has to say about the messages so far. -/
def answer : Loop → Except IoError Unit
  | .running | .finished => .ok ()
  | .failed cause => .error cause

end Loop

/-- The two streams, the messages in the channel between the pumps and the loop, the loop, and the
sinks. -/
structure State where
  side : Stream → Side
  channel : List Message
  loop : Loop
  sinks : Sinks

namespace State

def start (sinks : Sinks) : State :=
  ⟨fun _ => ⟨true, .empty, .reading⟩, [], .running, sinks⟩

def set (s : State) (stream : Stream) (side : Side) : State :=
  { s with side := Function.update s.side stream side }

@[simps] def push (s : State) (message : Message) : State :=
  { s with channel := s.channel ++ [message] }

/-- The call of the transpiler returns as soon as the loop and both pumps have ended. -/
def Over (s : State) : Prop :=
  s.loop ≠ .running ∧ ∀ stream, (s.side stream).pump = .ended

@[simp] theorem set_channel (s : State) (stream : Stream) (side : Side) :
    (s.set stream side).channel = s.channel := rfl

@[simp] theorem set_loop (s : State) (stream : Stream) (side : Side) :
    (s.set stream side).loop = s.loop := rfl

@[simp] theorem set_sinks (s : State) (stream : Stream) (side : Side) :
    (s.set stream side).sinks = s.sinks := rfl

@[simp] theorem set_side_self (s : State) (stream : Stream) (side : Side) :
    (s.set stream side).side stream = side := by
  simp [set]

theorem set_side_of_ne
    (s : State) {stream other : Stream} (side : Side) (h : other ≠ stream) :
    (s.set stream side).side other = s.side other := by
  simp [set, h]

theorem set_pump
    {s : State} {stream : Stream} {side : Side} (h : side.pump = (s.side stream).pump)
    (other : Stream) :
    ((s.set stream side).side other).pump = (s.side other).pump := by
  by_cases hother : other = stream
  · rw [hother, set_side_self, h]
  · rw [set_side_of_ne s side hother]

end State

/-! ## Steps -/

/-- What can happen next. -/
inductive Event where
  /-- The transpiler writes to a stream. -/
  | write (stream : Stream) (bytes : ByteArray)
  /-- The transpiler closes a stream. -/
  | close (stream : Stream)
  /-- A pump reads from its stream. -/
  | read (stream : Stream) (reading : Reading)
  /-- A pump sends the message that it holds. -/
  | send (stream : Stream) (message : Message)
  /-- A pump finds that nobody will receive the message that it holds. -/
  | refuse (stream : Stream) (message : Message)
  /-- The loop receives a message, and the sinks take it or do not. -/
  | receive (message : Message) (answer : Except IoError Unit)
  /-- The loop finds that no message is left and no pump will send another one. -/
  | finish

/-- The steps.  Every order of them is possible that the pumps, the channel and the loop allow. -/
inductive Step (s : State) : Event → State → Prop
  | write {stream : Stream} (bytes : ByteArray)
      (hopen : (s.side stream).isOpen = true) :
      Step s (.write stream bytes)
        (s.set stream ((s.side stream).fill bytes))
  | close {stream : Stream}
      (hopen : (s.side stream).isOpen = true) :
      Step s (.close stream) (s.set stream (s.side stream).shut)
  | read {stream : Stream} {reading : Reading} {rest : ByteArray}
      (hpump : (s.side stream).pump = .reading)
      (hoffers : (s.side stream).Offers reading rest) :
      Step s (.read stream reading)
        (s.set stream ((s.side stream).take reading rest))
  | send {stream : Stream} {message : Message}
      (hmessage : (s.side stream).pump.message? stream = some message) :
      Step s (.send stream message)
        ((s.set stream ((s.side stream).turn (s.side stream).pump.released)).push message)
  | refuse {stream : Stream} {message : Message}
      (hmessage : (s.side stream).pump.message? stream = some message)
      (hloop : s.loop ≠ .running) :
      Step s (.refuse stream message) (s.set stream ((s.side stream).turn .ended))
  | receive {message : Message} {rest : List Message} {answer : Except IoError Unit} {sinks : Sinks}
      (hloop : s.loop = .running)
      (hchannel : s.channel = message :: rest)
      (hforward : forward [message] s.sinks = (answer, sinks)) :
      Step s (.receive message answer)
        { s with channel := rest, loop := .after answer, sinks := sinks }
  | finish
      (hloop : s.loop = .running)
      (hchannel : s.channel = [])
      (hpumps : ∀ stream, (s.side stream).pump = .ended) :
      Step s .finish { s with loop := .finished }

theorem filterMap_snoc {α β : Type} (f : α → Option β) (entries : List α) (entry : α) :
    (entries ++ [entry]).filterMap f = entries.filterMap f ++ (f entry).toList := by
  rw [List.filterMap_append]
  cases h : f entry with
  | none => rw [List.filterMap_cons_none h, List.filterMap_nil, Option.toList_none]
  | some image => rw [List.filterMap_cons_some h, List.filterMap_nil, Option.toList_some]

/-- The runs from a state: what happened, in order, and the state that it led to. -/
inductive Run (s : State) : List Event → State → Prop
  | nil : Run s [] s
  | snoc {events : List Event} {t u : State} {event : Event}
      (run : Run s events t) (step : Step t event u) : Run s (events ++ [event]) u

theorem Run.append
    {s t u : State} {events more : List Event}
    (first : Run s events t) (second : Run t more u) :
    Run s (events ++ more) u := by
  induction second with
  | nil => simpa using first
  | snoc _ step ih =>
      rw [← List.append_assoc]
      exact .snoc ih step

theorem Run.cons
    {s t u : State} {event : Event} {events : List Event}
    (step : Step s event t) (run : Run t events u) : Run s (event :: events) u :=
  (Run.snoc .nil step).append run

end Relay

end CrossGen
