import CrossGen.Host.Command
import CrossGen.Host.Storage
import CrossGen.Text.Utf8

/-!
# What processes share

Files and what has been opened, the output of a run, and what is known of the processes that have
ended. Time passes in millionths of a second.
-/

namespace CrossGen.Shell

/-- How a process ended: with an exit status, or by the signal of a number. -/
inductive Exit where
  | status (code : Nat)
  | signal (number : Nat)
deriving DecidableEq, Repr

/-- What an open file leads to. A text is a document of a script. -/
inductive Target where
  | stream (stream : Stream)
  | file (loc : Location)
  | directory
  | device (kind : Device)
  | text (content : ByteArray)
  | pipeEnd (pipe : Nat)

/-- An open file. Descriptors that were made from each other lead to the same one, so that they have
one position. -/
structure OpenFile where
  target : Target
  reads : Bool
  writes : Bool
  appends : Bool
  position : Nat

/-- A piece of output, with the time that it was written at. -/
structure Piece where
  stream : Stream
  bytes : ByteArray
  time : Nat

/-- All that processes share. Signals are sent before they are delivered, and a process that has
ended is remembered for its parent. -/
structure World where
  files : FileSystem
  openFiles : Array OpenFile
  pipes : Array String
  output : Array Piece
  ended : List (Nat × Exit)
  sent : List (Nat × Nat)
  living : List Nat
  now : Nat

namespace World

/-- The number under which the next file is opened. -/
def nextFile (world : World) : Nat :=
  world.openFiles.size

def addFile (world : World) (file : OpenFile) : World :=
  { world with openFiles := world.openFiles.push file }

/-- Moves the position of an open file. -/
def seek (world : World) (number position : Nat) : World :=
  { world with
    openFiles := world.openFiles.modify number fun file => { file with position := position } }

/-- Makes a pipe with an end to read from and then one to write to. -/
def openPipe (world : World) : World :=
  let target := Target.pipeEnd world.pipes.size
  let world := { world with pipes := world.pipes.push "" }
  (world.addFile ⟨target, true, false, false, 0⟩).addFile ⟨target, false, true, false, 0⟩

/-- The exit of a process that has ended. -/
def exit? (world : World) (number : Nat) : Option Exit :=
  (world.ended.find? fun entry => entry.1 == number).map Prod.snd

end World

/-- The bytes of a file in which `bytes` are written over what is at a position. -/
def overlay (content : ByteArray) (position : Nat) (bytes : ByteArray) : ByteArray :=
  let gap : ByteArray := ⟨(List.replicate (position - content.size) (0 : UInt8)).toArray⟩
  content.extract 0 position ++ gap ++ bytes ++
    content.extract (position + bytes.size) content.size

/-- A signal with its number and the words for a process that it has ended. -/
structure Signal where
  number : Nat
  name : String
  words : String

/-- The signals that end a process unless it takes care of them. -/
def signals : List Signal :=
  [⟨1, "HUP", "Hangup"⟩, ⟨2, "INT", "Interrupt"⟩, ⟨3, "QUIT", "Quit"⟩,
    ⟨4, "ILL", "Illegal instruction"⟩, ⟨5, "TRAP", "Trace/breakpoint trap"⟩,
    ⟨6, "ABRT", "Aborted"⟩, ⟨7, "BUS", "Bus error"⟩, ⟨8, "FPE", "Floating point exception"⟩,
    ⟨9, "KILL", "Killed"⟩, ⟨10, "USR1", "User defined signal 1"⟩,
    ⟨11, "SEGV", "Segmentation fault"⟩, ⟨12, "USR2", "User defined signal 2"⟩,
    ⟨13, "PIPE", "Broken pipe"⟩, ⟨14, "ALRM", "Alarm clock"⟩, ⟨15, "TERM", "Terminated"⟩,
    ⟨16, "16", "Stack fault"⟩, ⟨24, "XCPU", "CPU time limit exceeded"⟩,
    ⟨25, "XFSZ", "File size limit exceeded"⟩, ⟨26, "VTALRM", "Virtual timer expired"⟩,
    ⟨27, "PROF", "Profiling timer expired"⟩, ⟨29, "IO", "I/O possible"⟩,
    ⟨30, "PWR", "Power failure"⟩, ⟨31, "SYS", "Bad system call"⟩]

/-- The signals that do not end a process. -/
def harmlessSignals : List Signal :=
  [⟨17, "CHLD", ""⟩, ⟨18, "CONT", ""⟩, ⟨19, "STOP", ""⟩, ⟨20, "TSTP", ""⟩, ⟨21, "TTIN", ""⟩,
    ⟨22, "TTOU", ""⟩, ⟨23, "URG", ""⟩, ⟨28, "WINCH", ""⟩]

/-- The signals without a meaning of their own, which are counted from the first and from the
last of them. -/
def freeSignals : List Signal :=
  (List.range 31).map fun n =>
    let name :=
      if n = 0 then "RTMIN"
      else if n = 30 then "RTMAX"
      else if n ≤ 15 then "RTMIN+" ++ toString n
      else "RTMAX-" ++ toString (30 - n)
    ⟨34 + n, name, "Real-time signal " ++ toString n⟩

/-- The number of the signal that nothing withstands. -/
def killSignal : Nat := 9

/-- The number of the signal for writing to a pipe that nobody reads. -/
def pipeSignal : Nat := 13

/-- The status that a shell gives to a process for the way in which it ended. -/
def Exit.code : Exit → Nat
  | status code => code
  | signal number => 128 + number

end CrossGen.Shell
