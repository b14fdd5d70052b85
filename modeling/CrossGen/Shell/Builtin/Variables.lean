import CrossGen.Shell.Builtin.Printing

/-!
# Variables and arguments

The commands of the shell that mark, set, remove and show variables, and those that are about the
arguments and the options of a script.
-/

namespace CrossGen.Shell

/-- A text as it can be written in a script. -/
def singleQuoted (text : String) : String :=
  let rec go (run : List Char) : List Char → String
    | [] => if run.isEmpty then "" else "'" ++ String.ofList run.reverse ++ "'"
    | '\'' :: cs =>
      let quotes := '\'' :: cs.takeWhile (· == '\'')
      (if run.isEmpty then "" else "'" ++ String.ofList run.reverse ++ "'") ++ "\"" ++
        String.ofList quotes ++ "\"" ++ goOn (cs.dropWhile (· == '\'')) (cs.length + 1)
    | c :: cs => go (c :: run) cs
  if text.isEmpty then "''" else go [] text.toList
where
  /-- The rest of a text behind quotes. -/
  goOn (cs : List Char) : Nat → String
    | 0 => ""
    | n + 1 =>
      if cs.isEmpty then ""
      else
        let run := cs.takeWhile (· != '\'')
        let rest := cs.drop run.length
        let quotes := rest.takeWhile (· == '\'')
        (if run.isEmpty then "" else "'" ++ String.ofList run ++ "'") ++
          (if quotes.isEmpty then "" else "\"" ++ String.ofList quotes ++ "\"") ++
          goOn (rest.drop quotes.length) n

/-- Shows the variables of a kind, each behind some words. -/
def showVariables (words : String) (kind : Variable → Bool) (valueless : Bool) : Run Unit := do
  let entries := (← Run.session).bindings.filter fun entry =>
    kind entry.2 && (valueless || entry.2.value.isSome)
  for (name, v) in entries.mergeSort fun a b => a.1 ≤ b.1 do
    say (words ++ name ++
      (match v.value with
      | some value => "=" ++ singleQuoted value
      | none => "") ++ "\n")

/-- A name with the value behind its equals sign, if there is one. -/
def splitSetting (text : String) : String × Option String :=
  match Text.cutAt? '=' text with
  | some (name, value) => (name, some value)
  | none => (text, none)

/-- The name of the variable that a text begins with, which may have a value behind it. -/
def wantName (text : String) : Run String := do
  let (name, _) := splitSetting text
  unless Reader.isName name do failWith (name ++ ": bad variable name")
  return name

/-- Marks variables, and sets those that come with a value. -/
def markVariables (words : String) (kind : Variable → Bool) (mark : Variable → Variable) :
    Builtin := fun args => do
  let (options, args) ← takeOptions ['p'] [] args
  if args.isEmpty || !options.isEmpty then
    showVariables words kind true
    return 0
  for arg in args do
    let (_, value) := splitSetting arg
    let name ← wantName arg
    if let some value := value then setVariable name value
    Run.update fun session =>
      session.setVariable name (mark ((session.held? name).getD ⟨none, false, false⟩))
  return 0

/-- Marks variables as visible to the programs that are started. -/
def exportVariables : Builtin :=
  markVariables "export " Variable.exported fun v => { v with exported := true }

/-- Marks variables that are not to change. -/
def protectVariables : Builtin :=
  markVariables "readonly " Variable.readonly fun v => { v with readonly := true }

/-- Removes variables or functions. -/
def unsetVariables : Builtin := fun args => do
  let (options, names) ← takeOptions ['f', 'v'] [] args
  for name in names do
    if options.getLast? == some 'f' then
      Run.update fun session =>
        { session with functions := session.functions.filter fun entry => entry.1 != name }
    else
      let name ← wantName name
      if ((← Run.session).held? name).any Variable.readonly then
        failWith (name ++ ": is read only")
      Run.update fun session => session.dropVariable name
  return 0

/-- Remembers a variable for the end of the innermost function. -/
def Session.hide (session : Session) (name : String) : Session :=
  match session.hidden with
  | [] => session
  | frame :: frames =>
    if frame.any fun entry => entry.1 == name then session
    else { session with hidden := ((name, session.held? name) :: frame) :: frames }

/-- Gives back variables that were remembered, the last of which stands in front. -/
def Session.giveBack (session : Session) (old : List (String × Option Variable)) : Session :=
  old.foldl (fun session (name, v) =>
    match v with
    | some v => session.setVariable name v
    | none => session.dropVariable name) session

/-- Gives back the variables that were remembered for the end of the innermost function. -/
def Session.unhide (session : Session) : Session :=
  match session.hidden with
  | [] => session
  | frame :: frames => ({ session with hidden := frames }).giveBack frame

/-- Makes variables of a function its own. -/
def localVariables : Builtin := fun args => do
  if (← Run.session).hidden.isEmpty then failWith "not in a function"
  for arg in args do
    let (name, value) := splitSetting arg
    if name != "-" then
      let name ← wantName arg
      Run.update fun session => session.hide name
      if let some value := value then setVariable name value
  return 0

/-- Drops the first arguments of the script. -/
def shiftArguments : Builtin := fun args => do
  let count ← match args with
    | [] => pure 1
    | text :: _ => wantNumber text
  if (← Run.session).args.length < count then failWith "can't shift that many"
  Run.update fun session => { session with args := session.args.drop count, scan := .start }
  return 0

/-- The names of options with their letters, in the order in which they are listed. -/
def optionNames : List (String × Char) :=
  [("errexit", 'e'), ("noglob", 'f'), ("ignoreeof", 'I'), ("interactive", 'i'), ("monitor", 'm'),
    ("noexec", 'n'), ("stdin", 's'), ("xtrace", 'x'), ("verbose", 'v'), ("vi", 'V'),
    ("emacs", 'E'), ("noclobber", 'C'), ("allexport", 'a'), ("notify", 'b'), ("nounset", 'u'),
    ("privileged", 'p'), ("nolog", '1'), ("debug", '2')]

/-- Turns an option on or off. -/
def Session.turn (session : Session) (isOn : Bool) (letter : Char) : Session :=
  let others := session.options.filter (· != letter)
  { session with options := if isOn then letter :: others else others }

/-- Turns the option of a name on or off, or lists all options. -/
def turnNamed (isOn : Bool) : List String → Run (List String)
  | [] => do
    let session ← Run.session
    if isOn then
      say "Current option settings\n"
      for (name, letter) in optionNames do
        say (name ++ "".pushn ' ' (16 - name.length) ++
          (if session.has letter then "on" else "off") ++ "\n")
    else
      for (name, letter) in optionNames do
        say ("set " ++ (if session.has letter then "-o " else "+o ") ++ name ++ "\n")
    return []
  | name :: args => do
    match optionNames.find? fun entry => entry.1 == name with
    | some (_, letter) => Run.update fun session => session.turn isOn letter; return args
    | none => failWith ("Illegal option -o " ++ name)

/-- The options that a shell starts with: where its script comes from. -/
structure Start where
  inline : Bool

/-- Turns the options of letters on or off. The letters that are only for the start of a shell are
only known there. -/
def turnLetters (isOn atStart : Bool) (start : Start) (args : List String) :
    List Char → Run (Start × List String)
  | [] => return (start, args)
  | letter :: letters => do
    if letter = 'c' && atStart then turnLetters isOn atStart { start with inline := true } args letters
    else if letter = 'l' && atStart then turnLetters isOn atStart start args letters
    else if letter = 'o' then turnLetters isOn atStart start (← turnNamed isOn args) letters
    else if optionNames.any fun entry => entry.2 == letter && letter.isAlpha then
      Run.update fun session => session.turn isOn letter
      turnLetters isOn atStart start args letters
    else failWith ("Illegal option -" ++ String.singleton letter)

/-- Reads the options in front of other arguments. The flag says whether the arguments behind them
replace those of the script even if there are none. -/
def readOptions (atStart : Bool) (start : Start) : Nat → List String →
    Run (Start × List String × Bool)
  | 0, args => return (start, args, false)
  | _, [] => return (start, [], false)
  | n + 1, arg :: args => do
    match arg.toList with
    | ['-'] =>
      unless atStart do
        Run.update fun session => (session.turn false 'x').turn false 'v'
      return (start, args, false)
    | ['-', '-'] => return (start, args, true)
    | '-' :: letters =>
      let (start, args) ← turnLetters true atStart start args letters
      readOptions atStart start n args
    | '+' :: letters =>
      let (start, args) ← turnLetters false atStart start args letters
      readOptions atStart start n args
    | _ => return (start, arg :: args, false)

/-- Sets the options and the arguments of the script, or shows all variables. -/
def setOptions : Builtin := fun args => do
  if args.isEmpty then
    showVariables "" (fun _ => true) false
    return 0
  let (_, rest, replaces) ← readOptions false ⟨false⟩ (args.length + 1) args
  if replaces || !rest.isEmpty then
    Run.update fun session => { session with args := rest, scan := .start }
  return 0

/-- The first field of a line whose characters are marked if they divide nothing, and what follows it
and the divider behind it. -/
def takeField (dividers : List Char) (line : List (Char × Bool)) :
    List (Char × Bool) × List (Char × Bool) :=
  let divides (entry : Char × Bool) : Bool := !entry.2 && dividers.contains entry.1
  let isGap (entry : Char × Bool) : Bool := divides entry && " \t\n".toList.contains entry.1
  let line := line.dropWhile isGap
  let field := line.takeWhile (!divides ·)
  let rest := (line.drop field.length).dropWhile isGap
  match rest with
  | entry :: others =>
    if divides entry then (field, others.dropWhile isGap) else (field, rest)
  | [] => (field, [])

/-- The values that a line gives to variables. The last variable takes all that is left of the line,
with its dividers unless only one field is left. -/
def distribute (dividers : List Char) (line : List (Char × Bool)) :
    List String → List (String × String)
  | [] => []
  | [name] =>
    let isGap (entry : Char × Bool) : Bool :=
      !entry.2 && dividers.contains entry.1 && " \t\n".toList.contains entry.1
    let (field, rest) := takeField dividers line
    let own :=
      if rest.isEmpty then field
      else ((line.dropWhile isGap).reverse.dropWhile isGap).reverse
    [(name, String.ofList (own.map Prod.fst))]
  | name :: names =>
    let (field, rest) := takeField dividers line
    (name, String.ofList (field.map Prod.fst)) :: distribute dividers rest names

/-- Takes the backslashes out of a line, which mark the characters behind them, and says whether the
line goes on in the next one. -/
def unescape : List Char → List (Char × Bool) × Bool
  | [] => ([], false)
  | ['\\'] => ([], true)
  | '\\' :: c :: cs =>
    let (line, isContinued) := unescape cs
    ((c, true) :: line, isContinued)
  | c :: cs =>
    let (line, isContinued) := unescape cs
    ((c, false) :: line, isContinued)

/-- Reads a line that may go on behind a backslash at its end. -/
def readJoined (raw : Bool) (before : List (Char × Bool)) :
    Nat → Run (List (Char × Bool) × Bool)
  | 0 => return (before, false)
  | n + 1 => do
    match ← readLine 0 with
    | .error _ => return (before, false)
    | .ok (text, isComplete) =>
      if raw then return (before ++ text.toList.map (fun c => (c, false)), isComplete)
      let (line, isContinued) := unescape text.toList
      if isContinued && isComplete then readJoined raw (before ++ line) n
      else return (before ++ line, isComplete)

/-- Reads a line of the input into variables. -/
def readVariables : Builtin := fun args => do
  let (options, names) ← takeOptions ['r', 'p'] [] args
  let names := if options.contains 'p' then names.tail else names
  if names.isEmpty then failWith "arg count"
  let (line, isComplete) ← readJoined (options.contains 'r') [] mostReads
  let line := line.filter fun entry => entry.1 != '\x00'
  for (name, value) in distribute (← Run.session).dividers line names do
    setVariable (← wantName name) value
  return if isComplete then 0 else 1

/-- Whether a letter is known to a list of options, and whether it takes an argument. -/
def knownOption? (letter : Char) : List Char → Option Bool
  | [] => none
  | c :: cs =>
    if c = letter && c != ':' then some (cs.head? == some ':') else knownOption? letter cs

/-- Takes the next option out of the arguments of a script. -/
def nextOption : Builtin := fun args => do
  match args with
  | known :: name :: args =>
    let session ← Run.session
    let args := if args.isEmpty then session.args else args
    let place := max 1 session.scan.place
    let isQuiet := known.startsWith ":"
    let finish (place offset : Nat) (letter : Char) (status : Nat) : Run Nat := do
      setVariable "OPTIND" (toString place)
      Run.update fun session => { session with scan := ⟨place, offset⟩ }
      setVariable (← wantName name) (String.singleton letter)
      return status
    let current := ((args[place - 2]?).getD "").toList
    let resumed :=
      if place ≤ 1 || session.scan.offset = 0 || current.length < session.scan.offset then []
      else current.drop session.scan.offset
    let (letters, place, isOver) :=
      if !resumed.isEmpty then (resumed, place, false)
      else
        match (args[place - 1]?).map String.toList with
        | some ['-', '-'] => ([], place + 1, true)
        | some ('-' :: c :: cs) => (c :: cs, place + 1, false)
        | _ => ([], place, true)
    match letters with
    | [] => finish place 0 '?' (if isOver then 1 else 0)
    | letter :: letters =>
      let current := ((args[place - 2]?).getD "").toList
      let offset := if letters.isEmpty then 0 else current.length - letters.length
      match knownOption? letter known.toList with
      | none =>
        if isQuiet then setVariable "OPTARG" (String.singleton letter)
        else
          warn ("Illegal option -" ++ String.singleton letter ++ "\n")
          Run.update fun session => session.dropVariable "OPTARG"
        finish place offset '?' 0
      | some false =>
        setVariable "OPTARG" ""
        finish place offset letter 0
      | some true =>
        if !letters.isEmpty then
          setVariable "OPTARG" (String.ofList letters)
          finish place 0 letter 0
        else
          match args[place - 1]? with
          | some text =>
            setVariable "OPTARG" text
            finish (place + 1) 0 letter 0
          | none =>
            if isQuiet then
              setVariable "OPTARG" (String.singleton letter)
              finish place 0 ':' 0
            else
              warn ("No arg for -" ++ String.singleton letter ++ " option\n")
              Run.update fun session => session.dropVariable "OPTARG"
              finish place 0 '?' 0
  | _ => failWith "Usage: getopts optstring var [arg...]"

end CrossGen.Shell
