import CrossGen.Shell.Run

/-!
# Processes side by side

Processes take turns. The turn is that of the process whose time is the earliest among those that
need not wait. A run is over when its first process has ended and, if its output is read, when no
process is left that could write any.
-/

namespace CrossGen.Shell

/-- A process that has not ended. -/
structure Process where
  parent : Nat
  session : Session
  wish : Wish
  resume : Bool → Session → World → Step
  time : Nat

/-- All processes that have not ended, and what they share. -/
structure Course where
  processes : List Process
  world : World
  lastNumber : Nat

/-- The size of what a pipe holds at most. -/
def pipeCapacity : Nat := 65536

namespace Course

/-- Whether a process has an open file of some kind. -/
def holds (world : World) (kind : OpenFile → Bool) (process : Process) : Bool :=
  process.session.descriptors.any fun (_, number) => (world.openFiles[number]?).any kind

def isWriter (pipe : Nat) (file : OpenFile) : Bool :=
  match file.target with
  | .pipeEnd own => own == pipe && file.writes
  | _ => false

def isReader (pipe : Nat) (file : OpenFile) : Bool :=
  match file.target with
  | .pipeEnd own => own == pipe && file.reads
  | _ => false

def isShown (file : OpenFile) : Bool :=
  match file.target with
  | .stream _ => true
  | _ => false

/-- What a process is told about what it waits for, unless it has to wait on. -/
def answer? (course : Course) (process : Process) : Option Bool :=
  let world := course.world
  match process.wish with
  | .moment _ => some true
  | .input pipe =>
    if (world.pipes[pipe]?).any fun held => !held.isEmpty then some true
    else if course.processes.any (holds world (isWriter pipe)) then none
    else some false
  | .room pipe =>
    if !course.processes.any (holds world (isReader pipe)) then some false
    else if (world.pipes[pipe]?).any fun held => held.utf8ByteSize < pipeCapacity then some true
    else none
  | .child numbers alert =>
    let isLiving (number : Nat) : Bool := course.processes.any fun p => p.session.number == number
    if alert && !process.session.pending.isEmpty then some true
    else if numbers.all isLiving then none
    else some true

/-- The earliest time at which a process can go on. -/
def due (process : Process) : Nat :=
  match process.wish with
  | .moment time => max time process.time
  | _ => process.time

/-- The process whose turn it is, with what it is told. -/
def turn? (course : Course) : Option (Process × Bool) :=
  course.processes.foldl (fun best process =>
    match course.answer? process with
    | none => best
    | some answer =>
      match best with
      | none => some (process, answer)
      | some (other, _) => if due process < due other then some (process, answer) else best) none

/-- Ends a process. Its exit is kept as long as its parent lives. -/
def drop (course : Course) (process : Process) (exit : Exit) : Course :=
  let number := process.session.number
  let processes := course.processes.filter fun p => p.session.number != number
  let isMissed := process.parent == 0 || processes.any fun p => p.session.number == process.parent
  { course with
    processes := processes
    world := { course.world with
      ended := if isMissed then course.world.ended ++ [(number, exit)] else course.world.ended } }

/-- Puts a process back in its place. -/
def put (course : Course) (process : Process) : Course :=
  { course with
    processes := course.processes.map fun p =>
      if p.session.number == process.session.number then process else p }

/-- Lets a signal reach a process. -/
def deliver (course : Course) (process : Process) (signal : Nat) : Course :=
  if signal = killSignal then course.drop process (.signal signal)
  else
    match process.session.trap? signal with
    | some "" => course
    | some _ =>
      course.put
        { process with
          session := { process.session with pending := process.session.pending ++ [signal] } }
    | none =>
      if signals.any fun known => known.number == signal then
        course.drop process (.signal signal)
      else course

/-- Lets all signals that were sent reach their processes. -/
def deliverAll (course : Course) : Course :=
  let sent := course.world.sent
  sent.foldl (fun course (number, signal) =>
    match course.processes.find? fun p => p.session.number == number with
    | some process => course.deliver process signal
    | none => course) { course with world := { course.world with sent := [] } }

/-- What becomes of all processes by the step of one. -/
def absorb (course : Course) (process : Process) : Step → Course
  | .ended exit world => drop { course with world := world } process exit
  | .waiting wish session world resume =>
    put { course with world := world }
      { process with session := session, wish := wish, resume := resume, time := world.now }
  | .forked session world start child resume =>
    let number := course.lastNumber + 1
    let own : Process :=
      { process with
        session := session
        wish := .moment (world.now + forkTime)
        resume := fun _ session world => resume number session world
        time := world.now }
    let other : Process :=
      { parent := session.number
        session := { start with number := number, pending := [] }
        wish := .moment (world.now + beginTime)
        resume := fun _ session world => child session world
        time := world.now }
    let course := put { course with world := world, lastNumber := number } own
    { course with processes := course.processes ++ [other] }

/-- Notes the time for the processes that have to wait, which cannot go on before it. -/
def hold (course : Course) (time : Nat) : Course :=
  { course with
    processes := course.processes.map fun p =>
      if (course.answer? p).isSome then p else { p with time := max p.time time } }

/-- Lets a process take its turn. -/
def advance (course : Course) (process : Process) (answer : Bool) : Course :=
  let world := { course.world with
    now := due process
    living := course.processes.map fun p => p.session.number }
  let step := process.resume answer process.session world
  let time := match step with
    | .ended _ world => world.now
    | .waiting _ _ world _ => world.now
    | .forked _ world _ _ _ => world.now
  ((course.hold time).absorb process step).deliverAll

end Course

/-- How a run is watched: whether its output is read to the end, and after how many pieces of output
its first process is killed. -/
structure Watch where
  reads : Bool
  patience : Option Nat

/-- The time after which the end of a process is noticed. -/
def noticeTime : Nat := 500

/-- The time after which a piece of output is noticed. -/
def reactionTime : Nat := 150

def mostTurns : Nat := 20000000

namespace Course

/-- The time at which the first process is killed, once that is known. -/
def doom? (course : Course) (watch : Watch) : Option Nat :=
  match watch.patience with
  | none => none
  | some 0 => some reactionTime
  | some (n + 1) => (course.world.output[n]?).map fun piece => piece.time + reactionTime

/-- Lets the processes run to the end of the run, of which `first` is the first one. The time of its
end is known as soon as it has ended. -/
def run (watch : Watch) (first : Nat) (ended : Option Nat) : Nat → Course → Course
  | 0, course => course
  | n + 1, course =>
    let main? := course.processes.find? fun p => p.session.number == first
    let next := course.turn?
    let isLater (time : Nat) : Bool := next.all fun (p, _) => time < due p
    match main? with
    | none =>
      let ended := ended.getD course.world.now
      match next with
      | none => course
      | some (process, answer) =>
        let isOver :=
          if watch.reads then !course.processes.any (holds course.world isShown)
          else ended + noticeTime < due process
        if isOver then course
        else run watch first (some ended) n (course.advance process answer)
    | some main =>
      match course.doom? watch with
      | some time =>
        if isLater time then
          run watch first (some time) n (course.drop main (.signal killSignal))
        else
          match next with
          | none => course
          | some (process, answer) => run watch first none n (course.advance process answer)
      | none =>
        match next with
        | none => course
        | some (process, answer) => run watch first none n (course.advance process answer)

end Course

end CrossGen.Shell
