import CrossGen.Environment
import CrossGen.Host.FileSystem

/-!
# Commands and the machine that runs them

A command names a program and what it is started with. What a program then does is up to the
machine: it may refuse to start it, and otherwise says how it ended, what it wrote and which files
it left behind. Nothing is assumed of a machine.
-/

namespace CrossGen

/-- The two streams that a program writes to. -/
inductive Stream where
  | out
  | err
deriving DecidableEq, Repr

/-- A program with its arguments, the directory that it starts in unless it is the caller's, and the
variables that are set on top of the caller's. -/
structure Command where
  program : String
  args : List String
  directory : Option Path
  overrides : Environment
deriving DecidableEq

/-- A command for `program` in the directory and the environment of the caller. -/
def Command.plain (program : String) (args : List String) : Command :=
  ⟨program, args, none, .empty⟩

/-- Whether a text holds a NUL, which cannot be part of what a program is started with. -/
def holdsNul (text : String) : Bool :=
  text.toList.contains '\x00'

/-- A text of a command as it can be told afterwards: one that holds a NUL is not kept. -/
def Command.told (text : String) : String :=
  if holdsNul text then "<string-with-nul>" else text

/-- The program and its arguments in one line. -/
def Command.line (command : Command) : String :=
  " ".intercalate ((command.program :: command.args).map Command.told)

/-- How a program ended: with an exit status, or by a signal. -/
inductive Ending where
  | exited (status : Nat)
  | killed
deriving DecidableEq, Repr

/-- The exit status, which a program that was killed does not have. -/
def Ending.status? : Ending → Option Int
  | exited status => some status
  | killed => none

/-- A program succeeds by ending with the exit status 0. -/
def Ending.isSuccess (ending : Ending) : Bool :=
  ending == .exited 0

/-- All that a program sees when it is started, and whether its output is read to the end. Launches
are numbered, so that a machine may answer the same command in another way the next time. -/
structure Launch where
  program : String
  args : List String
  directory : Location
  environment : Environment
  files : FileSystem
  number : Nat
  isRead : Bool

/-- What a program did: its ending, the pieces that it wrote in order, the files after it and the
milliseconds that it took. It may be ended as soon as it has written a number of pieces, and leaves
other files then. -/
structure Outcome where
  ending : Ending
  output : List (Stream × ByteArray)
  files : FileSystem
  leaving : Nat → FileSystem
  milliseconds : Nat

/-- What programs do. A machine answers each launch with an error if the program cannot be started,
and with what the program did otherwise. -/
abbrev Machine :=
  Launch → Except IoError Outcome

end CrossGen
