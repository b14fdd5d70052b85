import CrossGen.Shell.Arithmetic
import CrossGen.Shell.Matching
import CrossGen.Shell.Message
import CrossGen.Text.Fields

/-!
# Expansion

The parts of a word are replaced by their values. What was not quoted is then divided into fields,
which may stand for names of files.
-/

namespace CrossGen.Shell

/-- A piece of an expanded word. Fixed text was quoted, bare text stands in the script as it is, and
loose text is divided into fields. A gap always divides. A seam ends a quoted list of arguments. -/
inductive Chunk where
  | fixed (text : String)
  | bare (text : String)
  | loose (text : String)
  | gap
  | seam
deriving DecidableEq

namespace Chunk

def text : Chunk → String
  | fixed text | bare text | loose text => text
  | gap | seam => ""

/-- A value as a piece of a word. -/
def ofValue (quoted : Bool) (text : String) : Chunk :=
  if quoted then fixed text else loose text

/-- A piece of a word that is itself the value of a parameter. -/
def loosened : Chunk → Chunk
  | bare text => loose text
  | chunk => chunk

/-- The text of pieces that are not divided. -/
def join (separator : String) (chunks : List Chunk) : String :=
  String.join (chunks.map fun
    | gap => separator
    | chunk => chunk.text)

/-- The pieces of one text each, with gaps between them. -/
def separated (quoted : Bool) (texts : List String) : List Chunk :=
  (texts.map (ofValue quoted)).intersperse gap ++
    if quoted && !texts.isEmpty then [seam] else []

/-- The characters of pieces, marked if they are special in a pattern. -/
def marked (chunks : List Chunk) : List (Char × Bool) :=
  chunks.flatMap fun
    | fixed text => text.toList.map fun c => (c, false)
    | chunk => chunk.text.toList.map fun c => (c, true)

end Chunk

/-- The text that stands between the arguments of a shell where they become one text. -/
def Session.separator (session : Session) : String :=
  match session.held? "IFS" with
  | some ⟨some text, _, _⟩ => String.ofList (text.toList.take 1)
  | _ => " "

/-- The letters of the options of a shell in the order in which they are shown. -/
def optionOrder : List Char :=
  "plubaCEVvxsnmIfe".toList

/-- The value of a parameter, if it is set. -/
def Session.parameter? (session : Session) (name : String) : Option String :=
  match name with
  | "#" => some (toString session.args.length)
  | "?" => some (toString session.status)
  | "$" => some (toString session.leader)
  | "-" => some (String.ofList (optionOrder.filter session.has))
  | "!" => session.background.map toString
  | "@" | "*" => some (session.separator.intercalate session.args)
  | _ =>
    match name.toNat? with
    | some 0 => some session.name
    | some n => session.args[n - 1]?
    | none => session.value? name

/-- A text without the line ends at its end. -/
def dropNewlines (text : String) : String :=
  String.ofList (text.toList.reverse.dropWhile (· == '\n')).reverse

/-- What is left of several texts, each of which ends at a NUL, without a part that a pattern fits. A
part at the end that is to be short, and one at the start that is to be long, may be of any of the
texts; otherwise it is of the first one. No part goes on behind the end of a text. -/
def trimTexts (atEnd longest : Bool) (pattern : Pattern) (cs : List Char) : List Char :=
  let upToEnd (cs : List Char) : List Char := cs.takeWhile (· != '\x00')
  let places := List.range (cs.length + 1)
  let places := if atEnd != longest then places.reverse else places.take ((upToEnd cs).length + 1)
  let part (n : Nat) : List Char := upToEnd (if atEnd then cs.drop n else cs.take n)
  match places.find? fun n => pattern.fits (part n) with
  | none => cs
  | some n => if atEnd then cs.take n else cs.drop n

/-- The value of an arithmetic text. -/
def evaluate (text : String) : Run String := do
  let session ← Run.session
  let isReadonly (name : String) : Bool := (session.held? name).any Variable.readonly
  match Arithmetic.evaluate session.value? isReadonly text with
  | .ok (value, changed) =>
    for (name, n) in changed.reverse do setVariable name (toString n)
    return toString value
  | .error fault =>
    let problem (what : String) : String := "arithmetic expression: " ++ what ++ ": \"" ++ text ++ "\""
    failWith
      (match fault with
      | .expecting what => problem ("expecting " ++ what)
      | .divisionByZero => problem "division by zero"
      | .illegalNumber text => "Illegal number: " ++ text
      | .readonly name => name ++ ": is read only")

/-- The home directory that a tilde at the start of a text stands for, and what follows it. -/
def expandTilde (session : Session) (text : String) : String :=
  match text.toList with
  | '~' :: cs =>
    let user := cs.takeWhile (· != '/')
    let rest := String.ofList (cs.drop user.length)
    if user.isEmpty then
      match session.value? "HOME" with
      | some home => home ++ rest
      | none => text
    else if String.ofList user = "root" then "/root" ++ rest
    else text
  | _ => text

/-- A text in which every part behind a colon may begin with a tilde. -/
def expandTildes (session : Session) (text : String) : String :=
  ":".intercalate ((Text.fields ':' text).map (expandTilde session))

/-- Whether the tilde at the start of a word reaches to the end of its first part. -/
def tildeIsWhole (text : String) (parts : Word) : Bool :=
  parts.isEmpty || text.toList.contains '/'

mutual

def expandPart (capture : Script → Run String) (part : Part) : Nat → Run (List Chunk)
  | 0 => return []
  | n + 1 => do
    match part with
    | .literal text true => return [.fixed text]
    | .literal text false => return [.bare text]
    | .arithmetic word quoted =>
      let text := Chunk.join "" (← expandParts capture word n)
      return [.ofValue quoted (← evaluate text)]
    | .output script quoted =>
      return [.ofValue quoted (dropNewlines (← capture script))]
    | .parameter name use word quoted => expandParameter capture name use word quoted n

def expandParameter (capture : Script → Run String) (name : String) (use : Use) (word : Word)
    (quoted : Bool) : Nat → Run (List Chunk)
  | 0 => return []
  | n + 1 => do
    if use = .unclear then failWith "Bad substitution"
    let session ← Run.session
    let held := session.parameter? name
    let present (orEmpty : Bool) : Bool :=
      match held with
      | none => false
      | some text => !(orEmpty && text.isEmpty)
    let isSpread := name == "@" || (name == "*" && !quoted)
    let own : List Chunk :=
      if isSpread then Chunk.separated quoted session.args
      else if held.isNone && !quoted then []
      else [.ofValue quoted (held.getD "")]
    let refuseUnset : Run Unit := do
      if session.has 'u' && held.isNone then failWith (name ++ ": parameter not set")
    let inPlace : Run (List Chunk) := do
      let chunks := (← expandParts capture word n).map Chunk.loosened
      return if quoted then .fixed "" :: chunks else chunks
    match use with
    | .value | .unclear => refuseUnset; return own
    | .length => refuseUnset; return [.ofValue quoted (toString (held.getD "").length)]
    | .otherwise orEmpty =>
      if present orEmpty then return own else inPlace
    | .instead orEmpty =>
      if present orEmpty then inPlace else return [.ofValue quoted ""]
    | .trimmed atEnd longest =>
      refuseUnset
      if held.isNone || (isSpread && session.args.isEmpty) then return own
      let pattern :=
        Pattern.ofChars ((Chunk.marked (← expandParts capture word n)).map fun (c, s) => (c, !s))
      if !isSpread then
        return [.ofValue quoted (String.ofList (pattern.trim atEnd longest (held.getD "").toList))]
      let all := "\x00".intercalate session.args
      let left := String.ofList (trimTexts atEnd longest pattern all.toList)
      return Chunk.separated quoted (Text.fields '\x00' left)
    | .demanded orEmpty =>
      if present orEmpty then return own
      let message := Chunk.join session.separator (← expandParts capture word n)
      let message :=
        if !word.isEmpty then message
        else if orEmpty then "parameter not set or null"
        else "parameter not set"
      failWith (name ++ ": " ++ message)
    | .assigned orEmpty =>
      if present orEmpty then return own
      let value := Chunk.join session.separator (← expandParts capture word n)
      unless name.toList.head?.any fun c => c.isAlpha || c == '_' do
        failWith (name ++ ": bad variable name")
      setVariable name value
      return [.ofValue quoted value]

def expandParts (capture : Script → Run String) (word : Word) : Nat → Run (List Chunk)
  | 0 => return []
  | n + 1 => do
    match word with
    | [] => return []
    | .literal text false :: parts =>
      let session ← Run.session
      let text := if tildeIsWhole text parts then expandTilde session text else text
      return .bare text :: (← expandRest capture parts n)
    | word => expandRest capture word n

/-- Expands the parts of a word behind its start. -/
def expandRest (capture : Script → Run String) (word : Word) : Nat → Run (List Chunk)
  | 0 => return []
  | n + 1 => do
    match word with
    | [] => return []
    | part :: parts =>
      let chunks ← expandPart capture part n
      return chunks ++ (← expandRest capture parts n)

end

def wordDepth : Nat := 100000

/-- How far the division of a text into fields has come: the fields that are done, the last of them
in front, the present one in reverse order if there is one, whether blanks ended the last one, and
whether the next loose text is the first behind a list of arguments. -/
structure Division where
  done : List (List (Char × Bool))
  present : Option (List (Char × Bool))
  afterBlank : Bool
  afterList : Bool

namespace Division

/-- Adds a character to the present field. -/
def add (division : Division) (c : Char) (special : Bool) : Division :=
  { division with
    present := some ((c, special) :: division.present.getD [])
    afterBlank := false }

/-- Ends the present field, if there is one. -/
def finish (division : Division) : Division :=
  match division.present with
  | none => division
  | some field => { division with done := field.reverse :: division.done, present := none }

/-- Adds a character of loose text, which may divide fields. Blanks around another divider belong to
it, unless all dividers count alike, and a divider without a field in front of it ends an empty
one. -/
def addLoose (dividers : List Char) (alike : Bool) (division : Division) (c : Char) : Division :=
  if !dividers.contains c then division.add c true
  else if (c = ' ' || c = '\t' || c = '\n') && !alike then
    match division.present with
    | none => division
    | some _ => { division.finish with afterBlank := true }
  else
    match division.present with
    | some _ => { division.finish with afterBlank := false }
    | none =>
      if division.afterBlank then { division with afterBlank := false }
      else { division with done := [] :: division.done }

/-- Adds a piece of a word. In the first loose text behind a list of arguments, a blank divides like
any other divider. -/
def addChunk (dividers : List Char) (division : Division) : Chunk → Division
  | .fixed text =>
    text.toList.foldl (fun division c => division.add c false)
      { division with present := some (division.present.getD []), afterBlank := false }
  | .bare text => text.toList.foldl (fun division c => division.add c true) division
  | .loose text =>
    text.toList.foldl (addLoose dividers division.afterList)
      { division with afterBlank := false, afterList := false }
  | .seam => { division with afterList := true }
  | .gap => { division.finish with afterBlank := false }

end Division

/-- The fields of an expanded word. -/
def divide (dividers : List Char) (chunks : List Chunk) : List (List (Char × Bool)) :=
  (chunks.foldl (Division.addChunk dividers) ⟨[], none, false, false⟩).finish.done.reverse

def expandWord (capture : Script → Run String) (word : Word) : Run (List String) := do
  let chunks ← expandParts capture word wordDepth
  let session ← Run.session
  let fields := divide session.dividers chunks
  if session.has 'f' then return fields.map fieldText
  let files := (← Run.world).files
  return fields.flatMap (matchField files session.directory)

def expandWords (capture : Script → Run String) : List Word → Run (List String)
  | [] => return []
  | word :: words => do
    let fields ← expandWord capture word
    return fields ++ (← expandWords capture words)

/-- The text that a word expands to where it is not divided. -/
def expandText (capture : Script → Run String) (word : Word) : Run String := do
  let chunks ← expandParts capture word wordDepth
  return Chunk.join (← Run.session).separator chunks

def expandValue (capture : Script → Run String) (word : Word) : Run String := do
  let session ← Run.session
  let word := word.map fun
    | .literal text false => .literal (expandTildes session text) false
    | part => part
  expandText capture word

def expandPattern (capture : Script → Run String) (word : Word) : Run Pattern := do
  let chunks ← expandParts capture word wordDepth
  return .ofChars ((Chunk.marked chunks).map fun (c, special) => (c, !special))

end CrossGen.Shell
