import CrossGen.Shell.Expression.Reading
import CrossGen.Shell.Utility.Files
import CrossGen.Shell.Utility.Filtering

/-!
# Editing lines

`sed` applies commands to one line after the other. A command may be bound to some lines, by their
numbers or by regular expressions.
-/

namespace CrossGen.Shell.Editing

/-- What picks a line. -/
inductive Address where
  | line (number : Nat)
  | step (first distance : Nat)
  | behind (distance : Nat)
  | final
  | fitting (expression : Expression)

/-- The lines that a command is for. -/
inductive Scope where
  | all
  | one (address : Address)
  | range (first last : Address)

/-- A piece of what a stretch is replaced by. -/
inductive Piece where
  | text (text : String)
  | taken (group : Nat)

/-- What a command does. -/
inductive Action where
  | replace (expression : Expression) (pieces : List Piece) (isGlobal prints ignoresCase : Bool)
      (skipped : Nat)
  | map (sources targets : List Char)
  | delete
  | print
  | quit (prints : Bool) (status : Nat)
  | number
  | append (text : String)
  | insert (text : String)
  | change (text : String)
  | next
  | join
  | hold (appends : Bool)
  | recall (appends : Bool)
  | exchange
  | block (count : Nat)

/-- A command with its scope. The flag says whether it is for all other lines. A block is followed by
the commands in it. -/
structure Command where
  scope : Scope
  inverted : Bool
  action : Action

/-- What is wrong with a script. -/
inductive Fault where
  | missingCommand
  | unknownCommand (c : Char)
  | unfinished (what : String)
  | extra
  | unknownOption
  | unmatchedBrace
  | strings
  | expression (mistake : Expression.Mistake)

def Fault.message : Fault → String
  | missingCommand => "missing command"
  | unknownCommand c => "unknown command: `" ++ String.singleton c ++ "'"
  | unfinished what => what
  | extra => "extra characters after command"
  | unknownOption => "unknown option to `s'"
  | unmatchedBrace => "unmatched `\x7b'"
  | strings => "strings for `y' command are different lengths"
  | expression mistake => mistake.message

/-- The text up to a mark that has no backslash in front, and what follows it. The backslash in front
of a mark is dropped, except inside brackets. -/
def readUpTo (mark : Char) (taken : List Char) (inside : Bool) :
    List Char → Option (List Char × List Char)
  | [] => none
  | '\\' :: c :: cs =>
    if c = mark then readUpTo mark (if inside then c :: '\\' :: taken else c :: taken) inside cs
    else readUpTo mark (c :: '\\' :: taken) inside cs
  | c :: cs =>
    if c = mark && !inside then some (taken.reverse, cs)
    else
      let inside := if inside then c != ']' else c = '['
      readUpTo mark (c :: taken) inside cs

/-- The text up to a mark, in which brackets mean nothing. -/
def readPlainUpTo (mark : Char) (taken : List Char) :
    List Char → Option (List Char × List Char)
  | [] => none
  | '\\' :: c :: cs =>
    if c = mark then readPlainUpTo mark (c :: taken) cs
    else readPlainUpTo mark (c :: '\\' :: taken) cs
  | c :: cs => if c = mark then some (taken.reverse, cs) else readPlainUpTo mark (c :: taken) cs

def readExpression (extended : Bool) (cs : List Char) : Except Fault Expression :=
  match Expression.read extended (String.ofList cs) with
  | .ok expression => .ok expression
  | .error mistake => .error (.expression mistake)

def readAddress (extended : Bool) (cs : List Char) :
    Except Fault (Option Address × List Char) :=
  match cs with
  | '$' :: rest => .ok (some .final, rest)
  | '/' :: rest =>
    match readUpTo '/' [] false rest with
    | none => .error (.unfinished "unterminated address regex")
    | some (text, rest) => do return (some (.fitting (← readExpression extended text)), rest)
  | '\\' :: mark :: rest =>
    match readUpTo mark [] false rest with
    | none => .error (.unfinished "unterminated address regex")
    | some (text, rest) => do return (some (.fitting (← readExpression extended text)), rest)
  | cs =>
    let digits := cs.takeWhile Char.isDigit
    match (String.ofList digits).toNat?, cs.drop digits.length with
    | some n, '~' :: rest =>
      let distance := rest.takeWhile Char.isDigit
      .ok (some (.step n (((String.ofList distance).toNat?).getD 0)), rest.drop distance.length)
    | some n, rest => .ok (some (.line n), rest)
    | none, '+' :: rest =>
      let distance := rest.takeWhile Char.isDigit
      .ok (some (.behind (((String.ofList distance).toNat?).getD 0)), rest.drop distance.length)
    | none, _ => .ok (none, cs)

/-- Whether a character is a blank. -/
def isGap (c : Char) : Bool :=
  c = ' ' || c = '\t'

def readPieces : List Char → List Piece
  | [] => []
  | '&' :: cs => .taken 0 :: readPieces cs
  | '\\' :: d :: cs =>
    if d.isDigit then .taken (d.toNat - 0x30) :: readPieces cs
    else
      let e := if d = 'n' then '\n' else if d = 't' then '\t' else d
      .text (String.singleton e) :: readPieces cs
  | c :: cs => .text (String.singleton c) :: readPieces cs

/-- Drops backslashes, of which those in front of an `n` ask for a line end. -/
def unslash : List Char → List Char
  | [] => []
  | '\\' :: 'n' :: cs => '\n' :: unslash cs
  | '\\' :: c :: cs => c :: unslash cs
  | c :: cs => c :: unslash cs

/-- The text behind a command that takes the rest of the line, and what follows that. -/
def readLineText (cs : List Char) : String × List Char :=
  let cs := cs.dropWhile isGap
  let cs := match cs with
    | '\\' :: '\n' :: rest => rest
    | '\\' :: rest => rest.dropWhile isGap
    | cs => cs
  let rec go (done : List Char) : List Char → String × List Char
    | [] => (String.ofList done.reverse, [])
    | '\n' :: cs => (String.ofList done.reverse, cs)
    | '\\' :: c :: cs => go (c :: done) cs
    | c :: cs => go (c :: done) cs
  go [] cs

def readFlags (isGlobal prints ignoresCase : Bool) (skipped : Nat) :
    List Char → (Bool × Bool × Bool × Nat) × List Char
  | [] => ((isGlobal, prints, ignoresCase, skipped), [])
  | c :: cs =>
    if c = 'g' then readFlags true prints ignoresCase skipped cs
    else if c = 'p' then readFlags isGlobal true ignoresCase skipped cs
    else if c = 'i' || c = 'I' then readFlags isGlobal prints true skipped cs
    else if c.isDigit then
      readFlags isGlobal prints ignoresCase ((skipped + 1) * 10 + (c.toNat - 0x30) - 1) cs
    else ((isGlobal, prints, ignoresCase, skipped), c :: cs)

/-- Reads what a command does, and what follows it. -/
def readAction (extended : Bool) : List Char → Except Fault (Action × List Char)
  | [] => .error .missingCommand
  | 's' :: mark :: cs =>
    match readUpTo mark [] false cs with
    | none => .error (.unfinished "unterminated `s' command")
    | some (pattern, rest) =>
      match readPlainUpTo mark [] rest with
      | none => .error (.unfinished "unterminated `s' command")
      | some (replacement, rest) => do
        let ((isGlobal, prints, ignoresCase, skipped), rest) := readFlags false false false 0 rest
        let expression ← readExpression extended pattern
        if rest.head?.any fun c => c.isAlpha then throw .unknownOption
        return (.replace expression (readPieces replacement) isGlobal prints ignoresCase
          (skipped - 1), rest)
  | 'y' :: mark :: cs =>
    match readPlainUpTo mark [] cs with
    | none => .error (.unfinished "unterminated `y' command")
    | some (sources, rest) =>
      match readPlainUpTo mark [] rest with
      | none => .error (.unfinished "unterminated `y' command")
      | some (targets, rest) =>
        let sources := unslash sources
        let targets := unslash targets
        if sources.length = targets.length then .ok (.map sources targets, rest)
        else .error .strings
  | 'd' :: cs => .ok (.delete, cs)
  | 'p' :: cs => .ok (.print, cs)
  | '=' :: cs => .ok (.number, cs)
  | 'n' :: cs => .ok (.next, cs)
  | 'N' :: cs => .ok (.join, cs)
  | 'h' :: cs => .ok (.hold false, cs)
  | 'H' :: cs => .ok (.hold true, cs)
  | 'g' :: cs => .ok (.recall false, cs)
  | 'G' :: cs => .ok (.recall true, cs)
  | 'x' :: cs => .ok (.exchange, cs)
  | 'a' :: cs => let (text, rest) := readLineText cs; .ok (.append text, '\n' :: rest)
  | 'i' :: cs => let (text, rest) := readLineText cs; .ok (.insert text, '\n' :: rest)
  | 'c' :: cs => let (text, rest) := readLineText cs; .ok (.change text, '\n' :: rest)
  | c :: cs =>
    if c = 'q' || c = 'Q' then
      let cs := cs.dropWhile isGap
      let digits := cs.takeWhile Char.isDigit
      .ok (.quit (c = 'q') (((String.ofList digits).toNat?).getD 0), cs.drop digits.length)
    else .error (.unknownCommand c)

/-- Reads commands, up to the end of the block that they stand in. -/
def readCommands (extended : Bool) (depth : Nat) :
    Nat → List Char → Except Fault (List Command × List Char)
  | 0, cs => .ok ([], cs)
  | n + 1, cs => do
    let cs := cs.dropWhile fun c => isGap c || c = ';' || c = '\n'
    match cs with
    | [] => if depth = 0 then return ([], []) else throw .unmatchedBrace
    | '#' :: rest => readCommands extended depth n (rest.dropWhile (· != '\n'))
    | '\x7d' :: rest =>
      if depth = 0 then throw (.unknownCommand '\x7d')
      return ([], rest)
    | cs =>
      let (first, cs) ← readAddress extended cs
      let (last, cs) ← match first, cs with
        | some _, ',' :: rest => readAddress extended (rest.dropWhile isGap)
        | _, cs => pure (none, cs)
      let cs := cs.dropWhile isGap
      let inverted := cs.head? = some '!'
      let cs := (if inverted then cs.tail else cs).dropWhile isGap
      let scope : Scope := match first, last with
        | some a, some b => .range a b
        | some a, none => .one a
        | none, _ => .all
      match cs with
      | '\x7b' :: rest =>
        let (inner, rest) ← readCommands extended (depth + 1) n rest
        let (others, rest) ← readCommands extended depth n rest
        return (⟨scope, inverted, .block inner.length⟩ :: inner ++ others, rest)
      | cs =>
        let (action, rest) ← readAction extended cs
        let rest := rest.dropWhile isGap
        match rest.head? with
        | none | some ';' | some '\n' | some '#' | some '\x7d' =>
          let (others, rest) ← readCommands extended depth n rest
          return (⟨scope, inverted, action⟩ :: others, rest)
        | some _ => throw .extra

/-- How far the editing of a content has come. Ranges that are open are known by the places of their
commands, with the number of the line that they end at if that is known. Lines that are put out are
marked if they end as the last line of the content does. -/
structure State where
  rest : List String
  count : Nat
  openRanges : List (Nat × Option Nat)
  output : List (String × Bool)
  held : String
  finished : Option Nat

namespace State

/-- Whether no line follows. -/
def isLast (state : State) : Bool :=
  state.rest.isEmpty

/-- Puts out a line of the content. -/
def put (state : State) (line : String) : State :=
  { state with output := (line, state.isLast) :: state.output }

/-- Puts out a line of its own. -/
def tell (state : State) (line : String) : State :=
  { state with output := (line, false) :: state.output }

/-- Whether an address picks the present line. -/
def picks (state : State) (line : String) : Address → Bool
  | .line number => state.count == number
  | .step first distance =>
    first ≤ state.count &&
      (if distance = 0 then state.count = first else (state.count - first) % distance = 0)
  | .behind _ => false
  | .final => state.isLast
  | .fitting expression => (expression.search ⟨line.toList.toArray, false⟩ 0).isSome

/-- Whether the present line is in a scope, and the state in which ranges are opened or closed. -/
def isIn (state : State) (line : String) (place : Nat) : Scope → Bool × State
  | .all => (true, state)
  | .one address => (state.picks line address, state)
  | .range first last =>
    let others := state.openRanges.filter fun entry => entry.1 != place
    let closed := { state with openRanges := others }
    let opened (stop : Option Nat) : State :=
      { state with openRanges := (place, stop) :: others }
    let begin : Bool × State :=
      let stop := match last with
        | .line number => some number
        | .behind distance => some (state.count + distance)
        | _ => none
      (true, if stop.any fun number => number ≤ state.count then closed else opened stop)
    match state.openRanges.find? fun entry => entry.1 == place with
    | some (_, some stop) =>
      (true, if stop ≤ state.count then closed else state)
    | some (_, none) => (true, if state.picks line last then closed else state)
    | none =>
      match first with
      | .line 0 =>
        if state.count = 1 then (true, if state.picks line last then closed else opened none)
        else (false, state)
      | first => if state.picks line first then begin else (false, state)

end State

/-- A replacement for a stretch. -/
def fill (subject : Expression.Subject) (start : Nat) (progress : Expression.Progress)
    (pieces : List Piece) : List Char :=
  pieces.flatMap fun
    | .text text => text.toList
    | .taken 0 => subject.part start progress.place
    | .taken n =>
      match progress.group? n with
      | some (first, last) => subject.part first last
      | none => []

/-- Replaces the stretches of a text that an expression fits, the first ones of which may be skipped,
and says whether there were any. -/
def substitute (subject : Expression.Subject) (expression : Expression) (pieces : List Piece)
    (isGlobal : Bool) (skipped place : Nat) (done : List Char) : Nat → List Char × Bool
  | 0 => (done, false)
  | n + 1 =>
    let size := subject.text.size
    match if size < place then none else expression.search subject place with
    | none => (done ++ subject.part place size, false)
    | some (start, progress) =>
      let before := done ++ subject.part place start
      let isEmpty := start = progress.place
      let step := if isEmpty then subject.part start (start + 1) else []
      let next := if isEmpty then start + 1 else progress.place
      if skipped != 0 then
        let kept := before ++ subject.part start progress.place ++ step
        substitute subject expression pieces isGlobal (skipped - 1) next kept n
      else
        let changed := before ++ fill subject start progress pieces
        if isGlobal then
          ((substitute subject expression pieces isGlobal 0 next (changed ++ step) n).1, true)
        else (changed ++ subject.part progress.place size, true)

/-- How the commands for a line have ended: with the line, which is printed unless it is silent or
gone, and the lines that come behind it. -/
structure Cycle where
  line : String
  isGone : Bool
  behind : List String
  state : State

/-- Applies commands to a line. The place is that of the first of them. -/
def applyAll (isSilent : Bool) (place : Nat) (line : String) (behind : List String)
    (state : State) : Nat → List Command → Cycle
  | 0, _ | _, [] => ⟨line, false, behind, state⟩
  | n + 1, command :: commands =>
    let (isIn, state) := state.isIn line place command.scope
    let go (line : String) (state : State) : Cycle :=
      applyAll isSilent (place + 1) line behind state n commands
    if isIn == command.inverted then
      match command.action with
      | .block count =>
        applyAll isSilent (place + 1 + count) line behind state n (commands.drop count)
      | _ => go line state
    else
      match command.action with
      | .replace expression pieces isGlobal prints ignoresCase skipped =>
        let subject : Expression.Subject := ⟨line.toList.toArray, ignoresCase⟩
        let (cs, isChanged) :=
          substitute subject expression pieces isGlobal skipped 0 [] (line.length + 2)
        let line := if isChanged then String.ofList cs else line
        go line (if isChanged && prints then state.put line else state)
      | .map sources targets =>
        go (line.map fun c => targets.getD (sources.idxOf c) c) state
      | .delete => ⟨line, true, behind, state⟩
      | .print => go line (state.put line)
      | .quit prints status =>
        ⟨line, !prints, behind, { state with finished := some status }⟩
      | .number => go line (state.tell (toString state.count))
      | .append text =>
        applyAll isSilent (place + 1) line (behind ++ [text]) state n commands
      | .insert text => go line (state.tell text)
      | .change text =>
        let isInside := match command.scope with
          | .range .. => state.openRanges.any fun entry => entry.1 == place
          | _ => false
        ⟨line, true, behind, if isInside then state else state.tell text⟩
      | .next =>
        match state.rest with
        | [] => ⟨line, false, behind, { state with finished := some 0 }⟩
        | next :: rest =>
          let state := if isSilent then state else state.put line
          go next { state with rest := rest, count := state.count + 1 }
      | .join =>
        match state.rest with
        | [] => ⟨line, false, behind, { state with finished := some 0 }⟩
        | next :: rest =>
          go (line ++ "\n" ++ next) { state with rest := rest, count := state.count + 1 }
      | .hold appends =>
        go line { state with held := if appends then state.held ++ "\n" ++ line else line }
      | .recall appends => go (if appends then line ++ "\n" ++ state.held else state.held) state
      | .exchange => go state.held { state with held := line }
      | .block _ => go line state

/-- Edits the lines that are left. -/
def editAll (isSilent : Bool) (commands : List Command) (state : State) : Nat → State
  | 0 => state
  | n + 1 =>
    match state.rest, state.finished with
    | line :: rest, none =>
      let state := { state with rest := rest, count := state.count + 1 }
      let cycle := applyAll isSilent 0 line [] state (commands.length + 1) commands
      let state := cycle.state
      let state := if isSilent || cycle.isGone then state else state.put cycle.line
      editAll isSilent commands (cycle.behind.foldl State.tell state) n
    | _, _ => state

/-- The text of the lines that have been put out. The last line of a content that does not end is only
ended if something follows it. -/
def State.text (state : State) (isEnded : Bool) : String :=
  match state.output with
  | [] => ""
  | (line, isFinal) :: before =>
    unlines (before.reverse.map Prod.fst) ++ line ++ (if isFinal && !isEnded then "" else "\n")

end Editing

/-- Edits the lines of files or of its input by a script. -/
def editLines : Utility := fun args =>
  withOptions "nErsuz" "ef" [("--quiet", 'n'), ("--silent", 'n'), ("--regexp-extended", 'E'),
      ("--expression", 'e'), ("--in-place", 'i')]
    (fun choices operands => do
      let mut own : List String := []
      for choice in choices.list do
        if choice.letter = 'e' then own := own ++ [choice.argument]
        if choice.letter = 'f' then
          match ← contentOf choice.argument with
          | .ok text => own := own ++ [text]
          | .error e =>
            report ("couldn't open file " ++ choice.argument ++ ": " ++ reason e)
            return 4
      let (scripts, names) :=
        if own.isEmpty then (operands.take 1, operands.drop 1) else (own, operands)
      if scripts.isEmpty then
        let name := (← Run.session).name
        warn ("Usage: " ++ name ++ " [OPTION]... \x7bscript-only-if-no-other-script\x7d [input-file]...\n")
        return 1
      let script := "\n".intercalate scripts
      let extended := choices.has 'E' || choices.has 'r'
      match Editing.readCommands extended 0 (script.length + 2) script.toList with
      | .error fault =>
        report ("-e expression #1, char " ++ toString script.length ++ ": " ++ fault.message)
        return 1
      | .ok (commands, _) =>
        let isSilent := choices.has 'n'
        let edit (text : String) : Editing.State :=
          let lines := linesOf text
          Editing.editAll isSilent commands ⟨lines, 0, [], [], "", none⟩ (lines.length + 1)
        let isEnded (text : String) : Bool := text.isEmpty || text.endsWith "\n"
        let mut status := 0
        let mut all := ""
        for name in orInput names do
          match ← contentOf name with
          | .error e =>
            report ((if e = .isDirectory then "couldn't edit " ++ name ++ ": not a regular file"
              else "can't read " ++ name ++ ": " ++ reason e))
            status := 2
          | .ok text =>
            if choices.has 'i' then
              let (here, files) ← around
              let edited := (edit text).text (isEnded text)
              match files.write here (hostPath name) (Text.octetBytes edited) with
              | .ok files => storeFiles files
              | .error e =>
                report ("couldn't open file " ++ name ++ ": " ++ reason e)
                status := 4
            else all := (if isEnded all then all else all ++ "\n") ++ text
        if choices.has 'i' then return status
        let state := edit all
        say (state.text (isEnded all))
        return (state.finished.filter (· != 0)).getD status)
    (args.map fun arg => if arg = "-i" then "--in-place" else arg)

end CrossGen.Shell
