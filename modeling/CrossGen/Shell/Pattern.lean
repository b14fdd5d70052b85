/-!
# Patterns

A pattern describes texts. Most of its characters stand for themselves; a star fits any text, a
question mark any character, and brackets any of the characters between them. A quoted character
always stands for itself.
-/

namespace CrossGen.Shell

/-- A part of a pattern. -/
inductive Glyph where
  | exactly (c : Char)
  | anyOne
  | anyText
  | oneOf (within : Bool) (ranges : List (Char × Char))
deriving DecidableEq, Repr

/-- A pattern: its parts in order. -/
abbrev Pattern :=
  List Glyph

/-- Whether a part of a pattern fits a single character. -/
def Glyph.fits (c : Char) : Glyph → Bool
  | exactly d => c == d
  | anyOne => true
  | anyText => false
  | oneOf within ranges => (ranges.any fun (low, high) => low ≤ c && c ≤ high) == within

namespace Pattern

/-- Whether a pattern fits a whole text. -/
def fits : Pattern → List Char → Bool
  | [], cs => cs.isEmpty
  | .anyText :: rest, cs => (List.range (cs.length + 1)).any fun n => fits rest (cs.drop n)
  | _ :: _, [] => false
  | glyph :: rest, c :: cs => glyph.fits c && fits rest cs

/-- The characters of a class that has a name. -/
def classRanges? : String → Option (List (Char × Char))
  | "alpha" => some [('a', 'z'), ('A', 'Z')]
  | "digit" => some [('0', '9')]
  | "alnum" => some [('a', 'z'), ('A', 'Z'), ('0', '9')]
  | "lower" => some [('a', 'z')]
  | "upper" => some [('A', 'Z')]
  | "space" => some [(' ', ' '), ('\t', '\r')]
  | "blank" => some [(' ', ' '), ('\t', '\t')]
  | "punct" => some [('!', '/'), (':', '@'), ('[', '`'), ('\x7b', '~')]
  | "print" => some [(' ', '~')]
  | "graph" => some [('!', '~')]
  | "cntrl" => some [('\x00', '\x1f'), ('\x7f', '\x7f')]
  | "xdigit" => some [('0', '9'), ('a', 'f'), ('A', 'F')]
  | _ => none

/-- The class that is named at the start of a text, behind its opening bracket, and what follows
it. -/
def readClass? : List (Char × Bool) → Option (List (Char × Char) × List (Char × Bool))
  | (':', _) :: cs =>
    let name := cs.takeWhile fun entry => entry.1.isAlpha
    match cs.drop name.length with
    | (':', _) :: (']', _) :: rest =>
      (classRanges? (String.ofList (name.map Prod.fst))).map fun ranges => (ranges, rest)
    | _ => none
  | _ => none

/-- The ranges between brackets, and what follows the closing one. The first character never closes
the brackets, and neither does a quoted one. -/
def readRanges (first : Bool) (ranges : List (Char × Char)) :
    Nat → List (Char × Bool) → Option (List (Char × Char) × List (Char × Bool))
  | 0, _ => none
  | _ + 1, [] => none
  | n + 1, (c, quoted) :: cs =>
    if c = ']' && !quoted && !first then some (ranges, cs)
    else
      match if c = '[' && !quoted then readClass? cs else none with
      | some (own, rest) => readRanges false (own ++ ranges) n rest
      | none =>
        let (c, cs) := match c, quoted, cs with
          | '\\', false, (d, _) :: rest => (d, rest)
          | c, _, cs => (c, cs)
        match cs with
        | ('-', false) :: (d, dQuoted) :: rest =>
          if d = ']' && !dQuoted then readRanges false ((c, c) :: ranges) n cs
          else readRanges false ((c, d) :: ranges) n rest
        | _ => readRanges false ((c, c) :: ranges) n cs

/-- Reads a pattern from characters, of which the flag says whether they are quoted. -/
def read : Nat → List (Char × Bool) → Pattern
  | 0, _ => []
  | _ + 1, [] => []
  | n + 1, (c, quoted) :: cs =>
    if quoted then .exactly c :: read n cs
    else
      match c, cs with
      | '*', _ => .anyText :: read n cs
      | '?', _ => .anyOne :: read n cs
      | '\\', (d, _) :: rest => .exactly d :: read n rest
      | '[', _ =>
        let (within, inner) :=
          match cs with
          | ('!', false) :: rest => (false, rest)
          | _ => (true, cs)
        match readRanges true [] (inner.length + 1) inner with
        | none => .exactly '[' :: read n cs
        | some (ranges, rest) => .oneOf within ranges :: read n rest
      | c, _ => .exactly c :: read n cs

def ofChars (cs : List (Char × Bool)) : Pattern :=
  read (cs.length + 1) cs

/-- What is left of a text without a part at its start, or at its end, that a pattern fits. If
there are several such parts, it is the shortest or the longest. -/
def trim (atEnd longest : Bool) (pattern : Pattern) (cs : List Char) : List Char :=
  let lengths := List.range (cs.length + 1)
  let lengths := if longest then lengths.reverse else lengths
  let part (n : Nat) : List Char := if atEnd then cs.drop (cs.length - n) else cs.take n
  match lengths.find? fun n => fits pattern (part n) with
  | none => cs
  | some n => if atEnd then cs.take (cs.length - n) else cs.drop n

end Pattern

end CrossGen.Shell
