import CrossGen.Shell.Builtin.Printing

/-!
# Control of scripts and processes

The commands of the shell by which loops, functions and scripts end, and those that are about
signals and other processes.
-/

namespace CrossGen.Shell

def exitScript : Builtin := fun args => do
  match args with
  | [] => throw (.exited ((← Run.session).status % 256))
  | text :: _ => throw (.exited ((← wantNumber text) % 256))

/-- Ends a function or the lines that are being read. -/
def returnFromFunction : Builtin := fun args => do
  match args with
  | [] => throw (.returned false)
  | text :: _ =>
    setStatus (← wantNumber text)
    throw (.returned true)

/-- Leaves loops, or goes on with them. There may be fewer loops than that. -/
def leaveLoops (stop : Nat → Stop) : Builtin := fun args => do
  let count ← match args with
    | [] => pure 1
    | text :: _ =>
      match ← wantNumber text with
      | 0 => failWith ("Illegal number: " ++ text)
      | n => pure n
  let loops := min count (← Run.session).loops
  if loops = 0 then return 0
  setStatus 0
  throw (stop loops)

def namedSignals : List Signal :=
  signals ++ harmlessSignals ++ freeSignals

/-- The number of the signal of a name or of a number. The end of a shell counts as the signal 0. -/
def signalOf? (text : String) : Option Nat :=
  if !text.isEmpty && text.all Char.isDigit then text.toNat?.filter fun n => n ≤ 64
  else if text.toUpper = "EXIT" then some 0
  else (namedSignals.find? fun known => known.name == text.toUpper).map Signal.number

def signalName (number : Nat) : String :=
  if number = 0 then "EXIT"
  else
    match namedSignals.find? fun known => known.number == number with
    | some known => known.name
    | none => toString number

/-- Sets what is done at signals, or shows it. -/
def setTraps (quote : String → String) : Builtin := fun args => do
  let (_, args) ← takeOptions [] [] args
  let (action, names) : Option String × List String :=
    match args with
    | [] => (none, [])
    | [name] => (none, [name])
    | first :: rest => if first.toNat?.isSome then (none, args) else (some first, rest)
  if args.isEmpty then
    let session ← Run.session
    for (number, text) in session.traps.mergeSort fun a b => a.1 ≤ b.1 do
      say ("trap -- " ++ quote text ++ " " ++ signalName number ++ "\n")
  for name in names do
    match signalOf? name with
    | none =>
      warn ("trap: " ++ name ++ ": bad trap\n")
      return 1
    | some number =>
      Run.update fun session =>
        let others := session.traps.filter fun entry => entry.1 != number
        { session with
          traps := match action with
            | none | some "-" => others
            | some text => (number, text) :: others }
  return 0

/-- The lines that say how to send signals. -/
def killUsage : String :=
  "Usage: kill [-s sigspec | -signum | -sigspec] [pid | job]... or\nkill -l [exitstatus]"

/-- What is asked of the command that sends signals: the names of them, or that one is sent. -/
inductive Sending where
  | names
  | signal (number : Nat)

/-- Reads the options of the command that sends signals. -/
def takeSending (sending : Option Sending) : List String → Run (Option Sending × List String)
  | [] => return (sending, [])
  | arg :: args => do
    match arg.toList with
    | ['-', '-'] => return (sending, args)
    | '-' :: 'l' :: cs =>
      if cs.isEmpty then takeSending (some .names) args
      else failWith ("Illegal option -" ++ String.ofList (cs.take 1))
    | ['-', 's'] =>
      match args with
      | [] => failWith "No arg for -s option"
      | name :: args => takeSending (some (.signal (← signalNamed name))) args
    | '-' :: 's' :: name =>
      takeSending (some (.signal (← signalNamed (String.ofList name)))) args
    | '-' :: c :: _ => failWith ("Illegal option -" ++ String.singleton c)
    | _ => return (sending, arg :: args)
where
  /-- The signal of a name. -/
  signalNamed (name : String) : Run Nat := do
    match signalOf? name with
    | some n => return n
    | none => failWith ("invalid signal number or name: " ++ name)

/-- Sends a signal to a process, to all of them or to none, and tells whether there is one. -/
def signalTo (signal : Nat) (target : Int) : Run Bool := do
  let world ← Run.world
  if target ≤ 1 then return signal = 0
  else if world.living.contains target.toNat || (world.exit? target.toNat).isSome then
    unless signal = 0 do
      Run.change fun world => { world with sent := world.sent ++ [(target.toNat, signal)] }
    return true
  else return false

/-- Sends a signal to processes. Jobs are no groups of processes here, so none is ever found. -/
def sendSignal : Builtin := fun args => do
  let isSignal (first : String) : Bool := first.startsWith "-" &&
    (signalOf? (first.drop 1).toString).isSome && first.toUpper != "-EXIT"
  let (sending, operands) ← match args with
    | first :: rest =>
      if isSignal first then
        pure ((signalOf? (first.drop 1).toString).map Sending.signal, rest)
      else takeSending none args
    | [] => failWith killUsage
  match sending.getD (.signal 15), operands with
  | .names, [] =>
    for number in List.range 65 do
      say ((if number = 0 then "0" else signalName number) ++ "\n")
    return 0
  | .names, text :: _ =>
    let n ← wantNumber text
    let n := if n > 128 then n - 128 else n
    if n = 0 || n > 64 then
      failWith ("invalid signal number or exit status: " ++ text)
    say (signalName n ++ "\n")
    return 0
  | .signal _, [] => failWith killUsage
  | .signal number, targets =>
    let mut status := 0
    for target in targets do
      let isFound ← match target.toList with
        | '%' :: text =>
          let count := (← Run.session).children.length
          let place := (String.ofList text).toNat?.getD 0
          if ["", "%", "+"].contains (String.ofList text) then
            if count = 0 then failWith "No current job" else pure false
          else if text = ['-'] then
            if count < 2 then failWith "No previous job" else pure false
          else if 0 < place && place ≤ count then pure false
          else failWith ("No such job: " ++ target)
        | '-' :: text => signalTo number (-(← wantNumber (String.ofList text) : Nat))
        | _ => signalTo number (← wantNumber target)
      if !isFound then
        complain "No such process\n"
        status := 1
    Run.spend builtinTime
    return status

/-- Waits for the ends of processes that were started in the background. -/
def waitForChildren : Builtin := fun args => do
  let (_, args) ← takeOptions [] [] args
  let session ← Run.session
  match args with
  | [] =>
    for number in session.children do
      let _ ← Run.await (.child [number] true)
      if let signal :: _ := (← Run.session).pending then return 128 + signal
    Run.update fun session => { session with children := [] }
    return 0
  | args =>
    let mut status := 0
    for text in args do
      let number ← wantNumber text
      if session.children.contains number then
        let _ ← Run.await (.child [number] true)
        match (← Run.world).exit? number with
        | some _ =>
          let exit ← waitFor number
          noteExit exit
          Run.update fun session =>
            { session with children := session.children.filter (· != number) }
          status := exit.code
        | none =>
          if let signal :: _ := (← Run.session).pending then return 128 + signal
          status := 127
      else status := 127
    return status

/-- The text of a number in the base 8 with four digits. -/
def fourOctal (n : Nat) : String :=
  let digits := String.ofList (Nat.toDigits 8 n)
  "".pushn '0' (4 - digits.length) ++ digits

/-- The permissions that a clause such as `u=rw` leaves out of a mask. -/
def maskClause (mask : Nat) (clause : String) : Option Nat :=
  let cs := clause.toList
  let whom := cs.takeWhile fun c => "ugoa".toList.contains c
  let bitsOf (c : Char) : Nat := if c = 'r' then 4 else if c = 'w' then 2 else if c = 'x' then 1 else 0
  match cs.drop whom.length with
  | sign :: letters =>
    if !letters.all (fun c => "rwx".toList.contains c) then none
    else
      let bits := letters.foldl (fun n c => n ||| bitsOf c) 0
      let whom := if whom.isEmpty || whom.contains 'a' then ['u', 'g', 'o'] else whom
      let shift (c : Char) : Nat := if c = 'u' then 64 else if c = 'g' then 8 else 1
      let change (mask : Nat) (c : Char) : Option Nat :=
        let old := mask / shift c % 8
        let new? : Option Nat :=
          if sign = '=' then some (7 - bits)
          else if sign = '+' then some (old &&& (7 - bits))
          else if sign = '-' then some (old ||| bits)
          else none
        new?.map fun new => mask - old * shift c + new * shift c
      whom.foldlM change mask
  | [] => none

/-- Sets the permissions that files do not get, or shows them. -/
def setMask : Builtin := fun args => do
  let (options, args) ← takeOptions ['S'] [] args
  let mask := (← Run.session).mask
  match args with
  | [] =>
    let letters (n : Nat) : String :=
      (if n / 4 % 2 = 0 then "r" else "") ++ (if n / 2 % 2 = 0 then "w" else "") ++
        (if n % 2 = 0 then "x" else "")
    say (if options.isEmpty then fourOctal mask ++ "\n"
      else "u=" ++ letters (mask / 64) ++ ",g=" ++ letters (mask / 8) ++ ",o=" ++ letters mask ++ "\n")
    return 0
  | text :: _ =>
    let isNumber := text.toList.head?.any Char.isDigit
    let mask? : Option Nat :=
      if isNumber then
        if text.toList.all isOctal then
          some (text.toList.foldl (fun n c => n * 8 + (c.toNat - 0x30)) 0 % 512)
        else none
      else (Text.fields ',' text).foldlM maskClause mask
    match mask? with
    | some mask => Run.update fun session => { session with mask := mask }; return 0
    | none =>
      failWith (if isNumber then "Illegal number: " ++ text else "Illegal mode: " ++ text)

def showTimes : Builtin := fun _ => do
  say "0m0.000000s 0m0.000000s\n0m0.000000s 0m0.000000s\n"
  return 0

end CrossGen.Shell
