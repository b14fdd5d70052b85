import CrossGen.Shell.Builtin.Control
import CrossGen.Shell.Starting
import CrossGen.Shell.Utility.Printing

/-!
# Utilities that start programs

Programs that start others: with other variables, with arguments that are read, or for a limited
time.
-/

namespace CrossGen.Shell

/-- What `env` is asked to do before it starts a program. -/
structure Preparation where
  clears : Bool
  removed : List String
  directory : Option String
  isEnded : Bool
  rest : List String

/-- What is wrong with the arguments of `env`. -/
inductive PreparationFault where
  | unknown (letter : Char)
  | unknownName (text : String)
  | incomplete (letter : Char)

/-- The words of a text that is split at blanks, in which quotes and backslashes keep characters
together. -/
def splitWords (word : Option (List Char)) (quote : Option Char) : Nat → List Char → List String
  | 0, _ | _, [] => (word.map fun cs => String.ofList cs.reverse).toList
  | n + 1, c :: cs =>
    let own := word.getD []
    match quote with
    | some mark =>
      if c = mark then splitWords (some own) none n cs
      else
        match c, cs with
        | '\\', d :: rest =>
          if mark = '\'' && d != '\'' && d != '\\' then
            splitWords (some (d :: '\\' :: own)) quote n rest
          else splitWords (some (d :: own)) quote n rest
        | _, _ => splitWords (some (c :: own)) quote n cs
    | none =>
      if " \t\n\x0b\x0c\r".toList.contains c then
        (word.map fun cs => String.ofList cs.reverse).toList ++ splitWords none none n cs
      else if c = '\'' || c = '"' then splitWords (some own) (some c) n cs
      else
        match c, cs with
        | '#', _ =>
          if word.isNone then [] else splitWords (some (c :: own)) none n cs
        | '\\', '_' :: rest =>
          (word.map fun cs => String.ofList cs.reverse).toList ++ splitWords none none n rest
        | '\\', d :: rest =>
          match letterEscape? d with
          | some e => splitWords (some (e :: own)) none n rest
          | none => splitWords (some (d :: own)) none n rest
        | _, _ => splitWords (some (c :: own)) none n cs

/-- The words that a text stands for. -/
def wordsIn (text : String) : List String :=
  splitWords none none (text.length + 1) text.toList

/-- Reads the options of `env`. A text that is to be split gives further arguments. -/
def prepareBy (start : Preparation) : Nat → List String → Except PreparationFault Preparation
  | 0, args => .ok { start with rest := args }
  | _, [] => .ok { start with rest := [] }
  | n + 1, arg :: args =>
    match arg.toList with
    | ['-'] => prepareBy { start with clears := true } n args
    | ['-', '-'] => .ok { start with rest := args }
    | '-' :: '-' :: _ =>
      let (name, value) := Arguments.cutName arg
      match name with
      | "--ignore-environment" => prepareBy { start with clears := true } n args
      | "--unset" => prepareBy { start with removed := value :: start.removed } n args
      | "--chdir" => prepareBy { start with directory := some value } n args
      | "--null" => prepareBy { start with isEnded := true } n args
      | "--split-string" => prepareBy start n (wordsIn value ++ args)
      | _ => .error (.unknownName arg)
    | '-' :: letter :: cs =>
      let more := if cs.isEmpty then args else ("-" ++ String.ofList cs) :: args
      let argument? : Option (String × List String) :=
        if !cs.isEmpty then some (String.ofList cs, args)
        else args.head?.map fun value => (value, args.tail)
      match letter with
      | 'i' => prepareBy { start with clears := true } n more
      | '0' => prepareBy { start with isEnded := true } n more
      | 'v' => prepareBy start n more
      | 'u' =>
        match argument? with
        | some (name, args) => prepareBy { start with removed := name :: start.removed } n args
        | none => .error (.incomplete 'u')
      | 'C' =>
        match argument? with
        | some (name, args) => prepareBy { start with directory := some name } n args
        | none => .error (.incomplete 'C')
      | 'S' =>
        match argument? with
        | some (text, args) => prepareBy start n (wordsIn text ++ args)
        | none => .error (.incomplete 'S')
      | _ => .error (.unknown letter)
    | _ => .ok { start with rest := arg :: args }

/-- A bound on the number of arguments that there can be after all texts have been split. -/
def argumentBound (args : List String) : Nat :=
  args.foldl (fun length arg => length + arg.length + 1) 1

/-- Whether a text has blanks, which options in the first line of a script may not have. -/
def hasBlank (text : String) : Bool :=
  text.toList.any fun c => " \t\n\x0b\x0c\r".toList.contains c

/-- The hint for options in the first line of a script. -/
def splitHint : String :=
  "use -[v]S to pass options in shebang lines"

/-- Says what is wrong with the arguments of `env`. -/
def PreparationFault.tell (fault : PreparationFault) : Run Unit := do
  match fault with
  | .unknown letter =>
    report ("invalid option -- " ++ inQuotes (String.singleton letter))
  | .unknownName text => report ("unrecognized option " ++ inQuotes text)
  | .incomplete letter =>
    report ("option requires an argument -- " ++ inQuotes (String.singleton letter))
  warn ("Try '" ++ (← Run.session).name ++ " --help' for more information.\n")

/-- Sets variables and starts a program, or prints the variables. -/
def startWithVariables (go : Worker) : Utility := fun args => do
  match prepareBy ⟨false, [], none, false, []⟩ (argumentBound args) args with
  | .error fault =>
    fault.tell
    return 125
  | .ok preparation =>
    let settings := preparation.rest.takeWhile fun arg => arg.toList.contains '='
    Run.update fun session =>
      let bindings :=
        if preparation.clears then []
        else session.bindings.filter fun entry => !preparation.removed.contains entry.1
      (settings.filterMap (Text.cutAt? '=')).foldl
        (fun session (name, value) => session.setVariable name ⟨some value, true, false⟩)
        { session with bindings := bindings }
    if let some name := preparation.directory then
      let session ← Run.session
      let files := (← Run.world).files
      match files.locate session.directory (hostPath name) with
      | .ok loc =>
        if files.node? loc == some .directory then
          Run.update fun session => { session with directory := loc }
        else
          report ("cannot change directory to " ++ inQuotes name ++ ": " ++ reason .notDirectory)
          return 125
      | .error e =>
        report ("cannot change directory to " ++ inQuotes name ++ ": " ++ reason e)
        return 125
    match preparation.rest.drop settings.length with
    | [] =>
      for (name, v) in (← Run.session).bindings do
        say (name ++ "=" ++ v.value.getD "" ++ (if preparation.isEnded then "\x00" else "\n"))
      return 0
    | name :: args =>
      becomeNamed go (fun e => do
        report (inMarks name ++ ": " ++ reason e)
        if e = .notFound && hasBlank name then report splitHint
        return if e = .notFound then 127 else 126) name args

/-- Starts a program that is not to end when its terminal does. -/
def startDetached (go : Worker) : Utility := fun args => do
  match args with
  | [] =>
    reportMisuse "missing operand"
    return 125
  | name :: args =>
    Run.update fun session =>
      { session with traps := (1, "") :: session.traps.filter fun entry => entry.1 != 1 }
    becomeNamed go (fun e => do
      report ("failed to run command " ++ inMarks name ++ ": " ++ reason e)
      return if e = .notFound then 127 else 126) name args

/-- Starts a program for a time, after which a signal is sent to it. -/
def startForTime (go : Worker) : Utility := fun args => do
  let rec options (signal : String) : List String → String × List String
    | "-s" :: name :: rest => options name rest
    | "-k" :: _ :: rest => options signal rest
    | "--foreground" :: rest => options signal rest
    | "--preserve-status" :: rest => options signal rest
    | rest => (signal, rest)
  let (signal, args) := options "TERM" args
  match args with
  | limit :: name :: args =>
    match timeOf? limit with
    | none =>
      reportMisuse ("invalid time interval " ++ inMarks limit)
      return 125
    | some time =>
      let number := (signalOf? signal).getD 15
      let start := (← Run.world).now
      let child ← Run.fork Session.asPart do
        let status ← becomeNamed go (fun e => do
          report ("failed to run command " ++ inMarks name ++ ": " ++ reason e)
          return if e = .notFound then 127 else 126) name args
        throw (.exited status)
      let clock ← Run.fork Session.asPart do
        if time != 0 then
          Run.spend time
          Run.change fun world => { world with sent := world.sent ++ [(child, number)] }
          Run.spend builtinTime
        throw (.exited 0)
      let exit ← waitFor child
      let isOver := time != 0 && start + time ≤ (← Run.world).now
      Run.change fun world => { world with sent := world.sent ++ [(clock, killSignal)] }
      Run.spend builtinTime
      if isOver && exit = .signal killSignal then throw (.killed killSignal)
      return if isOver then 124 else exit.code
  | _ =>
    warn ("Try '" ++ (← Run.session).name ++ " --help' for more information.\n")
    return 125

/-- Cuts a list into parts of a length. -/
def chunksOf {α : Type} (size : Nat) : Nat → List α → List (List α)
  | 0, _ | _, [] => []
  | n + 1, elements => elements.take size :: chunksOf size n (elements.drop size)

/-- The arguments in which options in front of the first operand stand apart from their values. -/
def splitJoined : List String → List String
  | [] => []
  | [arg] =>
    match arg.toList with
    | '-' :: c :: d :: cs =>
      if "nIL".toList.contains c then [String.ofList ['-', c], String.ofList (d :: cs)] else [arg]
    | _ => [arg]
  | arg :: next :: rest =>
    match arg.toList with
    | ['-', c] =>
      if "nIL".toList.contains c then arg :: next :: splitJoined rest
      else arg :: splitJoined (next :: rest)
    | '-' :: c :: d :: cs =>
      if "nIL".toList.contains c then
        String.ofList ['-', c] :: String.ofList (d :: cs) :: splitJoined (next :: rest)
      else arg :: splitJoined (next :: rest)
    | _ => arg :: next :: rest

/-- Starts a program with arguments that are read from the input. -/
def startWithInput (go : Worker) : Utility := fun args => do
  let rec options (size : Option Nat) (place : Option String) (lines skips : Bool) :
      List String → Option Nat × Option String × Bool × Bool × List String
    | "-n" :: n :: rest => options n.toNat? place lines skips rest
    | "-I" :: text :: rest => options (some 1) (some text) true skips rest
    | "-L" :: n :: rest => options n.toNat? place true skips rest
    | "-r" :: rest => options size place lines true rest
    | "-0" :: rest => options size place lines skips rest
    | "-t" :: rest => options size place lines skips rest
    | rest => (size, place, lines, skips, rest)
  let args := splitJoined args
  let isNul := args.contains "-0"
  let (size, place, byLine, skips, command) := options none none false false args
  let text := ((← readAll 0).toOption).getD ""
  let words :=
    if isNul then (Text.fields '\x00' text).filter (!·.isEmpty)
    else if byLine then (linesOf text).filter (!·.isEmpty)
    else splitWords none none (text.length + 1) text.toList
  if words.isEmpty && (skips || place.isSome) then return 0
  let groups := match size with
    | some n => chunksOf (max 1 n) (words.length + 1) words
    | none => [words]
  let command := if command.isEmpty then ["echo"] else command
  let mut status := 0
  for group in if groups.isEmpty then [[]] else groups do
    let full := match place with
      | some mark => command.map fun (part : String) => part.replace mark (group.headD "")
      | none => command ++ group
    match full with
    | [] => pure ()
    | name :: args =>
      let child ← Run.fork Session.asPart do
        emptyInput
        let status ← becomeNamed go (fun e => do
          report (name ++ ": " ++ reason e)
          return if e = .notFound then 127 else 126) name args
        throw (.exited status)
      let exit ← waitFor child
      match exit with
      | .status 0 => pure ()
      | .status 126 => return 126
      | .status 127 => return 127
      | .status 255 =>
        report (name ++ ": exited with status 255; aborting")
        return 124
      | .status _ => status := 123
      | .signal n =>
        report (name ++ ": terminated by signal " ++ toString n)
        return 125
  return status

end CrossGen.Shell
