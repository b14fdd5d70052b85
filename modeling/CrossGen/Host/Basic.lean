import CrossGen.Host.Command
import CrossGen.Host.Storage

/-!
# The host

All that a run can see and change: the files, the directory and the environment that it runs in, the
programs that it starts, and the streams that it writes to. An action on the host may fail, and what
it changed until then stays changed.
-/

namespace CrossGen

/-- What was written to two streams. -/
structure Transcript where
  out : ByteArray
  err : ByteArray
deriving Inhabited, DecidableEq

namespace Transcript

def empty : Transcript := ⟨.empty, .empty⟩

/-- The transcript after `bytes` have been written to a stream. -/
def append (transcript : Transcript) (bytes : ByteArray) : Stream → Transcript
  | .out => { transcript with out := transcript.out ++ bytes }
  | .err => { transcript with err := transcript.err ++ bytes }

/-- The transcript after all pieces have been written, one after the other. -/
def appendAll (transcript : Transcript) (pieces : List (Stream × ByteArray)) : Transcript :=
  pieces.foldl (fun t (stream, bytes) => t.append bytes stream) transcript

end Transcript

/-- How a sink takes the next piece: as a whole, or only its first bytes and then an error. -/
inductive Reception where
  | accepted
  | refused (taken : Nat) (cause : IoError)
deriving DecidableEq, Repr

/-- A sink for bytes. Its behaviour says how it takes each piece that is offered to it, by the
number of the pieces offered before. -/
structure Sink where
  content : ByteArray
  offered : Nat
  behaviour : Nat → Reception

namespace Sink

/-- An empty sink that takes everything. -/
def accepting : Sink :=
  ⟨.empty, 0, fun _ => .accepted⟩

/-- An empty sink that refuses every piece. -/
def broken (cause : IoError) : Sink :=
  ⟨.empty, 0, fun _ => .refused 0 cause⟩

/-- Offers a piece to a sink. -/
def write (sink : Sink) (piece : ByteArray) : Except IoError Unit × Sink :=
  match sink.behaviour sink.offered with
  | .accepted =>
    (.ok (), { sink with content := sink.content ++ piece, offered := sink.offered + 1 })
  | .refused taken cause =>
    (.error cause,
      { sink with content := sink.content ++ piece.extract 0 taken, offered := sink.offered + 1 })

end Sink

/-- A sink for each stream. -/
structure Sinks where
  out : Sink
  err : Sink

/-- Offers a piece to the sink of a stream. -/
def Sinks.write (sinks : Sinks) (stream : Stream) (piece : ByteArray) :
    Except IoError Unit × Sinks :=
  match stream with
  | .out => let (answer, sink) := sinks.out.write piece; (answer, { sinks with out := sink })
  | .err => let (answer, sink) := sinks.err.write piece; (answer, { sinks with err := sink })

/-- A command that was tried, and how it ended if it could be started. -/
structure Attempt where
  command : Command
  result : Except IoError Ending

/-- The state of the host. The console is what appears on the streams of the run itself, and the
sinks take what a transpiler writes. -/
structure Host where
  files : FileSystem
  directory : Location
  environment : Environment
  machine : Machine
  attempts : List Attempt
  console : Transcript
  sinks : Sinks
  clock : Nat

/-- An action on the host, which may fail. -/
abbrev Act (ε : Type) (α : Type) :=
  EStateM ε Host α

namespace Host

/-- A host on which nothing has happened yet. -/
def fresh (files : FileSystem) (directory : Location) (environment : Environment)
    (machine : Machine) : Host :=
  ⟨files, directory, environment, machine, [], .empty, ⟨.accepting, .accepting⟩, 0⟩

/-- Reports the failures of `act` as failures of another kind. -/
def failAs {ε δ α : Type} (f : ε → δ) (act : Act ε α) : Act δ α := fun host =>
  match act host with
  | .ok a host => .ok a host
  | .error e host => .error (f e) host

/-- An answer that was found without an action. -/
def ofExcept {ε α : Type} : Except ε α → Act ε α
  | .ok a => pure a
  | .error e => throw e

/-- The content of the file at `p`. -/
def readFile (p : Path) : Act IoError ByteArray := do
  let host ← get
  ofExcept (host.files.read host.directory p)

/-- Stores `content` in the file at `p`. -/
def writeFile (p : Path) (content : ByteArray) : Act IoError Unit := do
  let host ← get
  let files ← ofExcept (host.files.write host.directory p content)
  set { host with files := files }

/-- Whether there is a regular file at `p`. -/
def isFile {ε : Type} (p : Path) : Act ε Bool := do
  let host ← get
  return host.files.isFile host.directory p

def makeDirectory (p : Path) : Act IoError Unit := do
  let host ← get
  let files ← ofExcept (host.files.makeDirectory host.directory p)
  set { host with files := files }

/-- Makes the first of the given directories, and before that those of the others that are missing,
each of which holds the one before it. -/
def makeChain : List Path → Act IoError Unit
  | [] => pure ()
  | p :: parents => fun host =>
    match makeDirectory p host with
    | .ok () host => .ok () host
    | .error e host =>
      if e = .notFound then
        match makeChain parents host with
        | .error e host => .error e host
        | .ok () host =>
          match makeDirectory p host with
          | .ok () host => .ok () host
          | .error e host =>
            if host.files.isDirectory host.directory p then .ok () host else .error e host
      else if host.files.isDirectory host.directory p then .ok () host
      else .error e host

/-- Makes the directory `p` and its parents as far as they are missing. -/
def makeDirectories (p : Path) : Act IoError Unit :=
  makeChain p.ancestors

/-- Writes a text to the console. -/
def print {ε : Type} (text : String) : Act ε Unit :=
  modify fun host => { host with console := host.console.append text.toUTF8 .out }

/-- What `command` is launched with. No text of it may hold a NUL, and the directory that it asks
for has to exist. -/
def launch (host : Host) (isRead : Bool) (command : Command) : Except IoError Launch :=
  let number := host.attempts.length
  let environment := host.environment.setAll command.overrides.entries
  let texts := command.program :: command.args ++ (command.directory.map Path.text).toList ++
    command.overrides.entries.map Prod.snd
  if texts.any holdsNul then .error .nulInCommand
  else
    match command.directory with
    | none =>
      .ok ⟨command.program, command.args, host.directory, environment, host.files, number, isRead⟩
    | some dir =>
      match host.files.locate host.directory dir with
      | .error e => .error e
      | .ok loc =>
        if host.files.node? loc = some .directory then
          .ok ⟨command.program, command.args, loc, environment, host.files, number, isRead⟩
        else .error .notDirectory

/-- Starts `command` and waits for its end, and for that of its output if that is read. What it writes
is part of the answer and goes nowhere else yet. -/
def execute (isRead : Bool) (command : Command) : Act IoError Outcome := fun host =>
  match (host.launch isRead command).bind host.machine with
  | .error e => .error e { host with attempts := host.attempts ++ [⟨command, .error e⟩] }
  | .ok outcome =>
    .ok outcome
      { host with
        files := outcome.files
        clock := host.clock + outcome.milliseconds
        attempts := host.attempts ++ [⟨command, .ok outcome.ending⟩] }

/-- Starts `command` with the console as its streams, of which only those in `shown` are kept, and
waits for its end. -/
def executeShown (shown : Stream → Bool) (command : Command) : Act IoError Ending := do
  let outcome ← execute false command
  modify fun host =>
    { host with console := host.console.appendAll (outcome.output.filter fun p => shown p.1) }
  return outcome.ending

end Host

end CrossGen
