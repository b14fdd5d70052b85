import CrossGen.Shell.Expression.Basic
import CrossGen.Shell.Pattern

/-!
# Reading regular expressions

Regular expressions are written in two ways, which differ in whether the signs for groups, choices
and repetitions stand behind a backslash.
-/

namespace CrossGen.Shell.Expression

/-- What is wrong with a written expression. -/
inductive Mistake where
  | bracket
  | group
  | brace
  | content
  | trailing
  | reference
  | repetition
deriving DecidableEq

def Mistake.message : Mistake → String
  | bracket => "Unmatched [, [^, [:, [., or [="
  | group => "Unmatched ( or \\("
  | brace => "Unmatched \\\x7b"
  | content => "Invalid content of \\\x7b\\\x7d"
  | trailing => "Trailing backslash"
  | reference => "Invalid back reference"
  | repetition => "Invalid preceding regular expression"

/-- A token of a written expression. -/
inductive Token where
  | part (expression : Expression)
  | opening
  | closing
  | bar
  | star (least : Nat) (most : Option Nat)

def wordRanges : List (Char × Char) :=
  [('a', 'z'), ('A', 'Z'), ('0', '9'), ('_', '_')]

def blankRanges : List (Char × Char) :=
  [(' ', ' '), ('\t', '\r')]

/-- Reads the ranges between brackets, of which the first character never closes them. -/
def readBrackets (isFirst : Bool) (ranges : List (Char × Char)) :
    Nat → List Char → Option (List (Char × Char) × List Char)
  | 0, _ | _, [] => none
  | n + 1, c :: cs =>
    if c = ']' && !isFirst then some (ranges, cs)
    else
      let named := match c, cs with
        | '[', ':' :: rest =>
          let name := rest.takeWhile (· != ':')
          match rest.drop name.length with
          | ':' :: ']' :: after =>
            (Pattern.classRanges? (String.ofList name)).map fun own => (own, after)
          | _ => none
        | _, _ => none
      match named with
      | some (own, rest) => readBrackets false (own ++ ranges) n rest
      | none =>
        match cs with
        | '-' :: d :: rest =>
          if d = ']' then readBrackets false ((c, c) :: ranges) n cs
          else readBrackets false ((c, d) :: ranges) n rest
        | _ => readBrackets false ((c, c) :: ranges) n cs

/-- Reads the bounds of a repetition, up to what closes them. -/
def readBounds (extended : Bool) (cs : List Char) :
    Except Mistake (Nat × Option Nat × List Char) :=
  let low := cs.takeWhile Char.isDigit
  let rest := cs.drop low.length
  let least := (String.ofList low).toNat?
  let (most, isRange, rest) : Option Nat × Bool × List Char := match rest with
    | ',' :: more =>
      let high := more.takeWhile Char.isDigit
      ((String.ofList high).toNat?, true, more.drop high.length)
    | rest => (least, false, rest)
  let closed := match extended, rest with
    | true, '\x7d' :: after => some after
    | false, '\\' :: '\x7d' :: after => some after
    | _, _ => none
  match closed with
  | none => .error .brace
  | some after =>
    if least.isNone && !isRange then .error .content
    else .ok (least.getD 0, most, after)

/-- What a letter behind a backslash stands for besides itself. -/
def letterPart? : Char → Option Expression
  | 'w' => some (.oneOf true wordRanges)
  | 'W' => some (.oneOf false wordRanges)
  | 's' => some (.oneOf true blankRanges)
  | 'S' => some (.oneOf false blankRanges)
  | 'b' => some (.wordEdge true)
  | 'B' => some (.wordEdge false)
  | '<' => some .wordStart
  | '>' => some .wordEnd
  | 'n' => some (exactly '\n')
  | 't' => some (exactly '\t')
  | c => if c.isDigit && c != '0' then some (.again (c.toNat - 0x30)) else none

/-- The token of a sign, if it is one of those that may stand behind a backslash. -/
def signToken? : Char → Option Token
  | '(' => some .opening
  | ')' => some .closing
  | '|' => some .bar
  | '+' => some (.star 1 none)
  | '?' => some (.star 0 (some 1))
  | _ => none

/-- Reads the tokens of a written expression. The flag says whether an expression begins here. -/
def readTokens (extended isStart : Bool) : Nat → List Char → Except Mistake (List Token)
  | 0, _ | _, [] => .ok []
  | n + 1, c :: cs =>
    let go (token : Token) (isStart : Bool) (rest : List Char) : Except Mistake (List Token) :=
      (readTokens extended isStart n rest).map (token :: ·)
    let plain (c : Char) (rest : List Char) : Except Mistake (List Token) :=
      go (.part (exactly c)) false rest
    let sign (c : Char) (rest : List Char) : Except Mistake (List Token) :=
      if c = '\x7b' then do
        let (least, most, rest) ← readBounds extended rest
        go (.star least most) false rest
      else
        match signToken? c with
        | some token => go token (c = '(' || c = '|') rest
        | none => plain c rest
    match c, cs with
    | '\\', [] => .error .trailing
    | '\\', d :: rest =>
      if !extended && (signToken? d).isSome || !extended && d = '\x7b' then
        if d = '\x7b' && isStart then plain d rest else sign d rest
      else
        match letterPart? d with
        | some part => go (.part part) false rest
        | none => plain d rest
    | '[', _ =>
      let (within, inner) := match cs with
        | '^' :: rest => (false, rest)
        | _ => (true, cs)
      match readBrackets true [] (inner.length + 1) inner with
      | none => .error .bracket
      | some (ranges, rest) => go (.part (.oneOf within ranges)) false rest
    | '.', _ => go (.part .anyOne) false cs
    | '*', _ => if isStart then plain '*' cs else go (.star 0 none) false cs
    | '^', _ =>
      if extended || isStart then go (.part .lineStart) true cs else plain '^' cs
    | '$', _ =>
      let isEnd := match cs with
        | [] => true
        | '\\' :: ')' :: _ => !extended
        | '\\' :: '|' :: _ => !extended
        | _ => extended
      if isEnd then go (.part .lineEnd) false cs else plain '$' cs
    | c, _ => if extended && !(c = '\x7b' && isStart) then sign c cs else plain c cs

/-- The expressions that are joined side by side, the last in front, as one. -/
def joined (parts : List Expression) : Expression :=
  match parts with
  | [] => .empty
  | part :: parts => parts.foldl (fun all one => .sequence one all) part

/-- A group that has not been closed: its number, the choices before the present one, and the parts
of that, the last in front. -/
structure Frame where
  number : Nat
  choices : List Expression
  parts : List Expression

/-- The expression of a group. -/
def Frame.close (frame : Frame) : Expression :=
  frame.choices.foldl (fun all one => .choice one all) (joined frame.parts)

/-- Builds an expression from tokens, behind groups that are still open. -/
def build (extended : Bool) (count : Nat) (frame : Frame) (outer : List Frame) :
    List Token → Except Mistake Expression
  | [] => if outer.isEmpty then .ok frame.close else .error .group
  | .part (.again number) :: tokens =>
    if count < number then .error .reference
    else build extended count { frame with parts := .again number :: frame.parts } outer tokens
  | .part part :: tokens =>
    build extended count { frame with parts := part :: frame.parts } outer tokens
  | .opening :: tokens => build extended (count + 1) ⟨count + 1, [], []⟩ (frame :: outer) tokens
  | .closing :: tokens =>
    match outer with
    | [] =>
      if extended then
        build extended count { frame with parts := exactly ')' :: frame.parts } outer tokens
      else .error .group
    | last :: outer =>
      build extended count
        { last with parts := .group frame.number frame.close :: last.parts } outer tokens
  | .bar :: tokens =>
    build extended count { frame with choices := joined frame.parts :: frame.choices, parts := [] }
      outer tokens
  | .star least most :: tokens =>
    match frame.parts with
    | [] =>
      if extended then build extended count frame outer tokens else .error .repetition
    | part :: parts =>
      build extended count { frame with parts := .repeated least most part :: parts } outer tokens

/-- Reads a written expression. -/
def read (extended : Bool) (text : String) : Except Mistake Expression := do
  let cs := text.toList
  build extended 0 ⟨0, [], []⟩ [] (← readTokens extended true (cs.length + 1) cs)

/-- The expression for a text as it stands. -/
def ofText (text : String) : Expression :=
  joined (text.toList.reverse.map exactly)

end CrossGen.Shell.Expression
