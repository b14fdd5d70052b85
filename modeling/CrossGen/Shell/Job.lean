import CrossGen.Shell.Image
import CrossGen.Shell.Message
import CrossGen.Shell.Reader.Command

/-!
# Jobs

What the interpreter is asked to do, and how it sets apart what a process of its own has to do.
-/

namespace CrossGen.Shell

/-- In which manner a command is carried out: whether its status is tested, so that it may fail, and
whether it is the last thing that its process does. -/
structure Manner where
  tested : Bool
  final : Bool

/-- The manner of a command that stands for itself. -/
def Manner.plain : Manner := ⟨false, false⟩

/-- The manner of a command that others follow. -/
def Manner.inside (manner : Manner) : Manner :=
  { manner with final := false }

/-- What the interpreter is asked to do: carry out a command, the lines of a source one after the
other, or a program of the machine with its arguments. The lines of a file may be shown as they are
read. -/
inductive Job where
  | command (script : Script) (manner : Manner)
  | lines (source : Source) (isFile : Bool) (manner : Manner)
  | program (image : Image) (args : List String)

/-- How jobs are carried out. -/
abbrev Worker :=
  Job → Run Unit

/-- The state of a process that carries out a part of a script. It takes care of no signals but
those that it is to withstand. -/
def Session.asPart (session : Session) : Session :=
  { session with
    traps := session.traps.filter fun entry => entry.2.isEmpty
    pending := []
    children := [] }

/-- Whether a shell takes care of any signal, or of its end. -/
def Session.hasTraps (session : Session) : Bool :=
  session.traps.any fun entry => !entry.2.isEmpty

/-- Takes care of the signals that have come. The status is afterwards what it was before. -/
def handleSignals (go : Worker) : Nat → Run Unit
  | 0 => pure ()
  | n + 1 => do
    let session ← Run.session
    match session.pending with
    | [] => pure ()
    | signal :: pending =>
      Run.update fun session => { session with pending := pending }
      match session.trap? signal with
      | none => pure ()
      | some text =>
        go (.lines (.ofText text 1) false .plain)
        setStatus session.status
      handleSignals go n

/-- The status of a process for the way in which an action of it ended, if it was not by a signal. -/
def statusOf (session : Session) : Except Stop Unit → Nat
  | .error (.exited status) | .error (.failed status) => status
  | _ => session.status

/-- Carries out the last action of a shell and what it has to do at its end. -/
def endShell (go : Worker) (act : Run Unit) : Run Unit := do
  match ← Run.attempt act with
  | .error (.killed signal) => throw (.killed signal)
  | outcome =>
    let session ← Run.session
    let status := statusOf session outcome
    match session.trap? 0 with
    | none | some "" => throw (.exited status)
    | some text =>
      Run.update fun session =>
        { session with
          status := status
          traps := session.traps.filter fun entry => entry.1 != 0 }
      match ← Run.attempt (go (.lines (.ofText text 1) false .plain)) with
      | .error stop => throw stop
      | .ok () => throw (.exited status)

/-- Carries out a part of a script in a process of its own. -/
def forkPart (go : Worker) (prepare : Session → Session) (act : Run Unit) : Run Nat :=
  Run.fork (fun session => prepare session.asPart) (endShell go act)

/-- Waits for the end of a process. -/
def waitFor (number : Nat) : Run Exit := do
  let _ ← Run.await (.child [number] false)
  let exit := ((← Run.world).exit? number).getD (.status 127)
  Run.change fun world =>
    { world with ended := world.ended.filter fun entry => entry.1 != number }
  return exit

/-- Says that a process was ended by a signal, unless the signal is an everyday one. -/
def noteExit : Exit → Run Unit
  | .status _ => pure ()
  | .signal number => do
    let words := ((signals.find? fun known => known.number == number).map Signal.words).getD ""
    unless number = 2 || number = pipeSignal do warn (words ++ "\n")

/-- Waits for a process that was started for a command, whose status becomes that of the command. -/
def waitForCommand (number : Nat) : Run Unit := do
  let exit ← waitFor number
  noteExit exit
  setStatus exit.code

/-- Carries out a script and answers what it writes to its standard output. -/
def capture (go : Worker) (script : Script) : Run String := do
  let reader := (← Run.world).nextFile
  Run.change World.openPipe
  let number ← forkPart go (fun session => session.direct 1 (reader + 1))
    (go (.command script ⟨false, true⟩))
  let descriptor := ownDescriptor reader
  Run.update fun session => session.direct descriptor reader
  let text := ((← readAll descriptor).toOption).getD ""
  Run.update fun session => session.close descriptor
  let exit ← waitFor number
  noteExit exit
  Run.update fun session => { session with inner := exit.code }
  return String.ofList (text.toList.filter (· != '\x00'))

/-- A strict shell ends when a command has failed whose status is not tested. -/
def checkStrict (manner : Manner) : Run Unit := do
  let session ← Run.session
  if session.has 'e' && !manner.tested && session.status != 0 then
    throw (.exited session.status)

end CrossGen.Shell
