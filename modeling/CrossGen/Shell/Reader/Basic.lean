import CrossGen.Shell.Syntax

/-!
# Reading characters

What is left of a script is a list of characters. A reader takes some of them from its front, or
says what is wrong. A backslash in front of a line end makes one line of two, and both characters
are dropped before anything looks at them.
-/

namespace CrossGen.Shell

/-- What a script is made of: words, redirection signs and signs between commands. -/
inductive Token where
  | endOfFile
  | newline
  | sign (text : String)
  | keyword (text : String)
  | word (word : Word)
  | redirection (descriptor : Nat) (kind : RedirectionKind)
  | document (descriptor : Nat) (stripped : Bool)

/-- A script with what is left of it to read, the token that was read too early, and the number of
lines that have been taken away behind the end of the present line. -/
structure Source where
  rest : List Char
  line : Nat
  waiting : Option Token
  behind : Nat

/-- A text to read, from the given line on. -/
def Source.ofText (text : String) (line : Nat) : Source :=
  ⟨text.toList.filter (· != '\x00'), line, none, 0⟩

/-- A mistake in a script, and the line that it was noticed on. -/
structure Mistake where
  line : Nat
  text : String

/-- A reader takes what it reads from the source, or says what is wrong with it. -/
abbrev Reader (α : Type) :=
  StateT Source (Except Mistake) α

namespace Reader

/-- Drops the next `n` characters. -/
def drop (n : Nat) : Reader Unit :=
  modify fun source =>
    let lines := (source.rest.take n).count '\n'
    { source with
      rest := source.rest.drop n
      line := source.line + lines + (if lines = 0 then 0 else source.behind)
      behind := if lines = 0 then source.behind else 0 }

/-- Drops line ends with a backslash in front from the start of what is left. -/
def joinLines : Nat → Reader Unit
  | 0 => pure ()
  | n + 1 => do
    match (← get).rest with
    | '\\' :: '\n' :: _ => drop 2; joinLines n
    | _ => pure ()

/-- The number of characters that are left. -/
def remaining : Reader Nat := do
  return (← get).rest.length

/-- The next characters as they stand. -/
def peekRaw : Reader (List Char) := do
  return (← get).rest

/-- The next characters, the first of which is not a joined line end. -/
def peek : Reader (List Char) := do
  match (← get).rest with
  | '\\' :: '\n' :: _ => joinLines (← remaining); peekRaw
  | cs => return cs

/-- The next character, if it is the given one, is dropped. -/
def dropIf (c : Char) : Reader Bool := do
  match ← peek with
  | d :: _ => if c = d then drop 1; return true else return false
  | [] => return false

/-- Ends the reading with a mistake. -/
def fail {α : Type} (text : String) : Reader α := do
  throw ⟨(← get).line, "Syntax error: " ++ text⟩

/-- Ends the reading because the script ends too early. -/
def failAtEnd {α : Type} : Reader α :=
  fail "end of file unexpected"

/-- Drops what may stand between words: blanks and comments. -/
def skipGap : Nat → Reader Unit
  | 0 => pure ()
  | n + 1 => do
    match ← peek with
    | ' ' :: _ => drop 1; skipGap n
    | '\t' :: _ => drop 1; skipGap n
    | '#' :: cs => drop (1 + (cs.takeWhile (· != '\n')).length)
    | _ => pure ()

def endsWord (c : Char) : Bool :=
  " \t\n;&|<>()".toList.contains c

def isNameStart (c : Char) : Bool :=
  c.isAlpha || c == '_'

def isNameChar (c : Char) : Bool :=
  c.isAlphanum || c == '_'

/-- Whether a text can be the name of a variable. -/
def isName (text : String) : Bool :=
  text.toList.head?.any isNameStart && text.toList.all isNameChar

/-- Takes characters as long as they are of a kind. -/
def takeWhile (kind : Char → Bool) (taken : List Char) : Nat → Reader (List Char)
  | 0 => return taken.reverse
  | n + 1 => do
    match ← peek with
    | c :: _ =>
      if kind c then
        drop 1
        takeWhile kind (c :: taken) n
      else return taken.reverse
    | [] => return taken.reverse

/-- A bound on how often anything can be read from here. -/
def budget : Reader Nat := do
  return 8 * (← remaining) + 64

end Reader

end CrossGen.Shell
