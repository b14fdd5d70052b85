import CrossGen.Shell.Session

/-!
# Processes as steps

A process runs until it waits for something, makes another process or ends. What it does after that
is a function of what it then finds. An action of a process is given by what is to follow it, so
that it can be suspended anywhere.
-/

namespace CrossGen.Shell

/-- What a process waits for: a time, something to read from a pipe or its end, room in a pipe or
the end of its readers, or the end of one of some processes, which a signal may cut short. -/
inductive Wish where
  | moment (time : Nat)
  | input (pipe : Nat)
  | room (pipe : Nat)
  | child (numbers : List Nat) (alert : Bool)

/-- What a process does next. One that waits is told whether what it waits for will ever come. -/
inductive Step where
  | ended (exit : Exit) (world : World)
  | waiting (wish : Wish) (session : Session) (world : World)
      (resume : Bool → Session → World → Step)
  | forked (session : Session) (world : World) (start : Session)
      (child : Session → World → Step) (resume : Nat → Session → World → Step)

/-- Why a script, a loop or a command ends early. A failed command has already said why. A function
may return with a status of its own. -/
inductive Stop where
  | exited (status : Nat)
  | failed (status : Nat)
  | killed (signal : Nat)
  | left (loops : Nat)
  | continued (loops : Nat)
  | returned (own : Bool)
deriving DecidableEq

/-- An action of a process. -/
def Run (α : Type) : Type :=
  (Except Stop α → Session → World → Step) → Session → World → Step

namespace Run

protected def pure {α : Type} (a : α) : Run α := fun next session world =>
  next (.ok a) session world

protected def bind {α β : Type} (act : Run α) (f : α → Run β) : Run β := fun next =>
  act fun outcome session world =>
    match outcome with
    | .ok a => f a next session world
    | .error stop => next (.error stop) session world

instance : Monad Run where
  pure := Run.pure
  bind := Run.bind

/-- Ends the action early. -/
protected def stop {α : Type} (stop : Stop) : Run α := fun next session world =>
  next (.error stop) session world

/-- Carries out an action and answers how it ended. -/
def attempt {α : Type} (act : Run α) : Run (Except Stop α) := fun next =>
  act fun outcome session world => next (.ok outcome) session world

/-- What an attempt came to. -/
def resumeWith {α : Type} (outcome : Except Stop α) : Run α := fun next session world =>
  next outcome session world

instance : MonadExceptOf Stop Run where
  throw := Run.stop
  tryCatch act handle := do
    match ← attempt act with
    | .ok a => pure a
    | .error stop => handle stop

def session : Run Session := fun next session world =>
  next (.ok session) session world

/-- What the process shares with others. -/
def world : Run World := fun next session world =>
  next (.ok world) session world

/-- Changes the session. -/
def update (f : Session → Session) : Run Unit := fun next session world =>
  next (.ok ()) (f session) world

def change (f : World → World) : Run Unit := fun next session world =>
  next (.ok ()) session (f world)

/-- Waits for something, and answers whether it has come or never will. -/
def await (wish : Wish) : Run Bool := fun next session world =>
  .waiting wish session world fun answer session world => next (.ok answer) session world

/-- What a process does at its end, if nothing is left to be done. -/
def finish : Except Stop Unit → Session → World → Step
  | .ok (), session, world => .ended (.status session.status) world
  | .error (.exited status), _, world => .ended (.status status) world
  | .error (.failed status), _, world => .ended (.status status) world
  | .error (.killed signal), _, world => .ended (.signal signal) world
  | .error _, session, world => .ended (.status session.status) world

/-- Makes a process that carries out an action, with a state made from that of its parent. The
parent goes on with the number of it. -/
def fork (prepare : Session → Session) (act : Run Unit) : Run Nat := fun next session world =>
  .forked session world (prepare session) (act finish) fun number session world =>
    next (.ok number) session world

/-- Carries out an action and changes the session after it, however it ended. -/
def ensuring {α : Type} (act : Run α) (restore : Session → Session) : Run α := do
  let outcome ← attempt act
  update restore
  resumeWith outcome

/-- Lets time pass. -/
def spend (time : Nat) : Run Unit := do
  let _ ← await (.moment ((← world).now + time))

end Run

/-- The time that a command of the shell itself takes. -/
def builtinTime : Nat := 10

/-- The time that it takes to make a process, for its parent. -/
def forkTime : Nat := 100

/-- The time until a process that has been made begins. -/
def beginTime : Nat := 300

def programTime : Nat := 700

/-- Sets the status that the next command sees. -/
def setStatus (status : Nat) : Run Unit :=
  Run.update fun session => { session with status := status }

end CrossGen.Shell
