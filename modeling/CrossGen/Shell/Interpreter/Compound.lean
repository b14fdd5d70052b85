import CrossGen.Shell.Interpreter.Simple

/-!
# Compound commands

Lists, branches, loops and pipelines. Each hands the commands that it is made of to a worker.
-/

namespace CrossGen.Shell

/-- Notes the line that a command stands on. -/
def atLine (line : Nat) : Run Unit :=
  Run.update fun session => { session with line := line }

/-- Carries out a command whose status is tested, and answers that. -/
def testStatus (go : Worker) (script : Script) : Run Nat := do
  go (.command script ⟨true, false⟩)
  return (← Run.session).status

/-- Carries out commands one after the other. -/
def runBlock (go : Worker) (manner : Manner) : List Script → Run Unit
  | [] => pure ()
  | [command] => go (.command command manner)
  | command :: commands => do
    go (.command command manner.inside)
    runBlock go manner commands

/-- Whether a loop goes on after a round or a part of one that ended in the given way. -/
def goesOn : Except Stop Unit → Run Bool
  | .ok () => return true
  | .error (.left loops) => if loops ≤ 1 then return false else throw (.left (loops - 1))
  | .error (.continued loops) =>
    if loops ≤ 1 then return true else throw (.continued (loops - 1))
  | .error stop => throw stop

def mostRounds : Nat := 10000000

/-- Repeats a command as long as a test has the given outcome, and answers the status of the last
round, which is also that of a test which returns without one of its own. -/
def repeatWhile (go : Worker) (manner : Manner) (whenTrue : Bool) (test body : Script)
    (status : Nat) : Nat → Run Nat
  | 0 => throw (.killed killSignal)
  | n + 1 => do
    match ← Run.attempt (testStatus go test) with
    | .error stop =>
      if stop = .returned false then setStatus status
      if ← goesOn (.error stop) then repeatWhile go manner whenTrue test body status n
      else return status
    | .ok outcome =>
      if (outcome == 0) != whenTrue then return status
      let ended ← Run.attempt (go (.command body manner.inside))
      let status := (← Run.session).status
      if ← goesOn ended then repeatWhile go manner whenTrue test body status n
      else return status

/-- Carries out a command for each of the given values of a variable, and answers the status of the
last round. -/
def repeatFor (go : Worker) (manner : Manner) (name : String) (body : Script) (status : Nat) :
    List String → Run Nat
  | [] => return status
  | value :: values => do
    setVariable name value
    let ended ← Run.attempt (go (.command body manner.inside))
    let status := (← Run.session).status
    if ← goesOn ended then repeatFor go manner name body status values else return status

/-- Carries out a loop, whose status is that of its last round. -/
def runLoop (rounds : Run Nat) : Run Unit := do
  Run.update fun session => { session with loops := session.loops + 1 }
  let status ← Run.ensuring rounds fun session => { session with loops := session.loops - 1 }
  setStatus status

/-- Whether one of the patterns fits a text. -/
def fitsAny (go : Worker) (text : String) : List Word → Run Bool
  | [] => return false
  | word :: words => do
    if (← expandPattern (capture go) word).fits text.toList then return true
    else fitsAny go text words

/-- Carries out the first clause that has a pattern which fits the text. -/
def chooseClause (go : Worker) (manner : Manner) (text : String) :
    List (List Word × Script) → Run Unit
  | [] => setStatus 0
  | (patterns, body) :: clauses => do
    if ← fitsAny go text patterns then
      match body with
      | .block [] => setStatus 0
      | body => go (.command body manner)
    else chooseClause go manner text clauses

/-- The state without the descriptors that only the shell itself uses. -/
def Session.withoutOwn (session : Session) : Session :=
  { session with
    descriptors := session.descriptors.filter fun entry => entry.1 < ownDescriptor 0 }

/-- The state of a process that is not to be disturbed by signals for the others. -/
def Session.undisturbed (session : Session) : Session :=
  let others := session.traps.filter fun entry => entry.1 != 2 && entry.1 != 3
  { session with traps := (2, "") :: (3, "") :: others }

/-- Starts the commands of a pipeline, each of which reads what the one before it writes. The first
one has an open file as its input, or what the action gives it. -/
def startPiped (go : Worker) (manner : Manner) (prepare : Session → Session) (begin : Run Unit)
    (input : Option Nat) : List Script → Run (List Nat)
  | [] => return []
  | command :: commands => do
    let act : Run Unit := do
      begin
      go (.command command manner)
    let own (session : Session) : Session :=
      let session := prepare session.withoutOwn
      match input with
      | some number => session.direct 0 number
      | none => session
    let release : Run Unit :=
      match input with
      | some number => Run.update fun session => session.close (ownDescriptor number)
      | none => pure ()
    if commands.isEmpty then
      let number ← forkPart go own act
      release
      return [number]
    else
      let reader := (← Run.world).nextFile
      Run.change World.openPipe
      Run.update fun session => session.direct (ownDescriptor reader) reader
      let number ← forkPart go (fun session => (own session).direct 1 (reader + 1)) act
      release
      return number :: (← startPiped go manner prepare (pure ()) (some reader) commands)

/-- Waits for all processes of a pipeline, the status of which is that of the last one. -/
def waitForAll : List Nat → Run Unit
  | [] => pure ()
  | number :: numbers => do
    waitForCommand number
    waitForAll numbers

/-- Carries out a subshell. -/
def runSubshell (go : Worker) (manner : Manner) (body : Script)
    (redirections : List Redirection) : Run Unit := do
  let act : Run Unit := do
    if ← redirectAll go redirections then go (.command body { manner with final := true })
    else throw (.exited 2)
  if manner.final && !(← Run.session).hasTraps then act
  else
    let number ← forkPart go Session.withoutOwn act
    waitForCommand number

/-- Starts a command that runs on beside the script. -/
def runBackground (go : Worker) (body : Script) : Run Unit := do
  let manner : Manner := ⟨false, true⟩
  let commands := match body with
    | .piped commands => commands
    | body => [body]
  let numbers ← startPiped go manner Session.undisturbed emptyInput none commands
  Run.update fun session =>
    { session with
      background := numbers.getLast?
      children := session.children ++ numbers }
  setStatus 0

/-- Carries out a command. -/
def runScript (go : Worker) (manner : Manner) : Script → Run Unit
  | .simple line assignments words redirections => do
    atLine line
    runSimple go manner assignments words redirections
    checkStrict manner
  | .block commands => runBlock go manner commands
  | .both first second => do
    if (← testStatus go first) = 0 then go (.command second manner)
  | .either first second => do
    if (← testStatus go first) ≠ 0 then go (.command second manner)
  | .negated body => do
    let status ← testStatus go body
    setStatus (if status = 0 then 1 else 0)
  | .piped commands => do
    waitForAll (← startPiped go { manner with final := true } id (pure ()) none commands)
    checkStrict manner
  | .branch test yes no => do
    if (← testStatus go test) = 0 then go (.command yes manner)
    else
      match no with
      | .block [] => setStatus 0
      | no => go (.command no manner)
  | .loop whenTrue test body => runLoop (repeatWhile go manner whenTrue test body 0 mostRounds)
  | .each line name words body => do
    atLine line
    let values ← match words with
      | some words => expandWords (capture go) words
      | none => do pure (← Run.session).args
    runLoop (repeatFor go manner name body 0 values)
  | .choice line word clauses => do
    atLine line
    let text ← expandText (capture go) word
    chooseClause go manner text clauses
  | .subshell line body redirections => do
    atLine line
    runSubshell go manner body redirections
    checkStrict manner
  | .background line body => do
    atLine line
    runBackground go body
  | .redirected line body redirections => do
    atLine line
    withDescriptors redirections do
      if ← redirectAll go redirections then go (.command body manner.inside)
      else
        setStatus 2
        checkStrict manner
  | .definition name body =>
    Run.update fun session =>
      { session with
        functions := (name, body) :: session.functions.filter fun entry => entry.1 != name
        status := 0 }

end CrossGen.Shell
