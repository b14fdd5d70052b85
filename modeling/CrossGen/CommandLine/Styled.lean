import CrossGen.Environment

/-!
# Styled texts

Messages and help are made of spans of different styles. On a page with colours the styles appear as
control sequences. A page without colours shows none of them, nor any other control sequence that a
message happens to quote.
-/

namespace CrossGen.CommandLine

/-- How a span stands out from the text around it. -/
inductive Style where
  | plain
  | heading
  | alarm
  | literal
  | valid
  | invalid
deriving DecidableEq, Repr

/-- The numbers of the graphic renditions that make up a style. -/
def Style.renditions : Style → List Nat
  | plain => []
  | heading => [1, 4]
  | alarm => [1, 31]
  | literal => [1]
  | valid => [32]
  | invalid => [33]

/-- A piece of text in one style. -/
structure Span where
  style : Style
  text : String
deriving DecidableEq, Repr

/-- A span with the control sequences of its style around it. -/
def Span.render (span : Span) : String :=
  let begun := String.join (span.style.renditions.map fun n => "\x1b[" ++ toString n ++ "m")
  begun ++ span.text ++ (if span.style.renditions.isEmpty then "" else "\x1b[0m")

/-- A text in several styles. -/
abbrev Styled :=
  List Span

namespace Styled

/-- A text that does not stand out. -/
def plain (text : String) : Styled := [⟨.plain, text⟩]

/-- A text that heads a section. -/
def heading (text : String) : Styled := [⟨.heading, text⟩]

/-- A text that is to be written as it stands. -/
def literal (text : String) : Styled := [⟨.literal, text⟩]

/-- A text that is right. -/
def valid (text : String) : Styled := [⟨.valid, text⟩]

/-- A text that is wrong. -/
def invalid (text : String) : Styled := [⟨.invalid, text⟩]

/-- The number of characters of a text. -/
def length (text : Styled) : Nat :=
  text.foldl (fun n span => n + span.text.length) 0

/-- A text with the control sequences of its styles. -/
def render (text : Styled) : String :=
  String.join (text.map Span.render)

end Styled

/-- How far a control sequence has been read. A string is what follows the start of a command to a
device, the flag says whether it is a title, which is not ended by a terminator of one byte. -/
inductive Sequence where
  | none
  | escape
  | intermediate
  | control
  | parameter
  | controlIntermediate
  | ignored
  | device
  | deviceParameter
  | deviceIntermediate
  | text (isTitle : Bool)
deriving DecidableEq, Repr

namespace Sequence

/-- Whether a sequence is a command to a device up to where its text begins. -/
def isDeviceHead : Sequence → Bool
  | device | deviceParameter | deviceIntermediate => true
  | _ => false

/-- What a sequence becomes by one more character, which is not a control. -/
def extend (sequence : Sequence) (c : Char) : Sequence :=
  let n := c.toNat
  match sequence with
  | none => none
  | escape =>
    if n < 0x30 then intermediate
    else if c = '[' then control
    else if c = ']' then text true
    else if c = 'P' then device
    else if c = 'X' || c = '^' || c = '_' then text false
    else none
  | intermediate => if n < 0x30 then intermediate else none
  | control =>
    if n < 0x30 then controlIntermediate else if n < 0x40 then parameter else none
  | parameter =>
    if n < 0x30 then controlIntermediate
    else if n < 0x3C then parameter
    else if n < 0x40 then ignored
    else none
  | controlIntermediate =>
    if n < 0x30 then controlIntermediate else if n < 0x40 then ignored else none
  | ignored => if n < 0x40 then ignored else none
  | device =>
    if n < 0x30 then deviceIntermediate else if n < 0x40 then deviceParameter else text false
  | deviceParameter =>
    if n < 0x30 then deviceIntermediate else if n < 0x3C then deviceParameter else text false
  | deviceIntermediate => if n < 0x30 then deviceIntermediate else text false
  | text isTitle => text isTitle

/-- Whether a control shows on a page although it is one. -/
def isBlankControl (c : Char) : Bool :=
  c = '\t' || c = '\n' || c = '\x0c' || c = '\r'

/-- What a sequence becomes by one more character, and whether that character shows. -/
def step (sequence : Sequence) (c : Char) : Sequence × Bool :=
  let n := c.toNat
  if c = '\x1b' then (escape, false)
  else if n = 0x18 || n = 0x1A then (none, false)
  else
    match sequence with
    | none =>
      if n < 0x20 then (none, isBlankControl c) else (none, c != '\x7f')
    | text isTitle =>
      if isTitle then (if n = 0x07 then none else text true, false)
      else
        let ended := 0x80 ≤ n && (String.singleton c).toUTF8.toList.contains 0x9C
        (if ended then none else text false, false)
    | sequence =>
      if n < 0x20 then
        if isBlankControl c && !sequence.isDeviceHead then (none, true) else (sequence, false)
      else if 0x7F ≤ n then (sequence, false)
      else (sequence.extend c, false)

end Sequence

/-- The characters that show, behind a sequence that has been read so far. -/
def shownFrom (sequence : Sequence) : List Char → List Char
  | [] => []
  | c :: cs =>
    let (next, shows) := sequence.step c
    if shows then c :: shownFrom next cs else shownFrom next cs

/-- A text without the control sequences in it. -/
def shown (text : String) : String :=
  String.ofList (shownFrom .none text.toList)

/-- Whether the environment asks for colours on every page. -/
def wantsColours (env : Environment) : Bool :=
  (env.value? "NO_COLOR").isNone && (env.lookup? "CLICOLOR_FORCE").any (· != "0")

/-- A text as it appears on a page of a program with the given environment. -/
def Styled.page (text : Styled) (env : Environment) : String :=
  if wantsColours env then text.render else shown text.render

end CrossGen.CommandLine
