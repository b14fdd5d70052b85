import CrossGen.Host.Basic

/-!
# Passing output on

What the transpiler writes is passed on to the sinks as it arrives. Each of its streams is read by a
pump, which sends every piece that it reads over a channel, and the pieces are forwarded in the
order in which they come out of it.
-/

namespace CrossGen.Relay

/-- What one attempt to read from a stream gives. -/
inductive Reading where
  | piece (bytes : ByteArray)
  | interrupted
  | failed (cause : IoError)
  | closed
deriving DecidableEq

/-- What a pump sends. -/
inductive Message where
  | piece (stream : Stream) (bytes : ByteArray)
  | failed (cause : IoError)
deriving DecidableEq

/-- What a pump has sent, and the readings that it left. -/
structure Pumped where
  sent : List Message
  left : List Reading
deriving DecidableEq

/-- Pumps the readings of a stream into a channel whose receiver takes `room` more messages before
it goes away. An interrupted attempt is repeated. The pump ends when the stream is closed, after a
failure, and when a message is not taken. -/
def pump (stream : Stream) (room : Nat) : List Reading → Pumped
  | [] => ⟨[], []⟩
  | .closed :: rest => ⟨[], rest⟩
  | .interrupted :: rest => pump stream room rest
  | .failed cause :: rest =>
    match room with
    | 0 => ⟨[], rest⟩
    | _ + 1 => ⟨[.failed cause], rest⟩
  | .piece bytes :: rest =>
    match room with
    | 0 => ⟨[], rest⟩
    | room + 1 =>
      let pumped := pump stream room rest
      { pumped with sent := .piece stream bytes :: pumped.sent }

/-- Forwards messages to the sinks, up to the first failure. -/
def forward : List Message → Sinks → Except IoError Unit × Sinks
  | [], sinks => (.ok (), sinks)
  | .failed cause :: _, sinks => (.error cause, sinks)
  | .piece stream bytes :: rest, sinks =>
    match sinks.write stream bytes with
    | (.error cause, sinks) => (.error cause, sinks)
    | (.ok (), sinks) => forward rest sinks

/-- The size of the largest piece that is read at once. -/
def pieceSize : Nat := 8192

/-- The pieces in which `bytes` are read. -/
def cut (bytes : ByteArray) : List ByteArray :=
  (List.range ((bytes.size + pieceSize - 1) / pieceSize)).map fun n =>
    bytes.extract (n * pieceSize) ((n + 1) * pieceSize)

/-- The messages for what a program writes, when all of it is read in the order of writing. -/
def messages (output : List (Stream × ByteArray)) : List Message :=
  output.flatMap fun (stream, bytes) => (cut bytes).map (Message.piece stream)

end CrossGen.Relay
