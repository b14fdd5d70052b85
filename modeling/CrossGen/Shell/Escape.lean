/-!
# Escapes

The escapes behind a backslash that printing commands understand. An escape may stand for any byte.
-/

namespace CrossGen.Shell

/-- The character that a letter stands for behind a backslash. -/
def letterEscape? : Char → Option Char
  | 'a' => some '\x07'
  | 'b' => some '\x08'
  | 'e' => some '\x1b'
  | 'f' => some '\x0c'
  | 'n' => some '\n'
  | 'r' => some '\r'
  | 't' => some '\t'
  | 'v' => some '\x0b'
  | '\\' => some '\\'
  | _ => none

def isOctal (c : Char) : Bool :=
  '0' ≤ c && c ≤ '7'

def octalByte (digits : List Char) : Char :=
  Char.ofNat (digits.foldl (fun n c => n * 8 + (c.toNat - 0x30)) 0 % 256)

/-- What the escape behind a backslash stands for, and what follows it. Without an escape there, it
is the backslash itself. -/
def readEscape : List Char → Char × List Char
  | [] => ('\\', [])
  | c :: cs =>
    if isOctal c then
      let digits := ((c :: cs).take 3).takeWhile isOctal
      (octalByte digits, (c :: cs).drop digits.length)
    else
      match letterEscape? c with
      | some d => (d, cs)
      | none => ('\\', c :: cs)

/-- What a text with escapes gives, behind what it has given, the last of it in front, and whether
it asks for the output to end there. An octal escape may have a zero more in front. -/
def expandEscapes (done : List Char) : Nat → List Char → List Char × Bool
  | 0, _ => (done.reverse, false)
  | _ + 1, [] => (done.reverse, false)
  | _ + 1, '\\' :: 'c' :: _ => (done.reverse, true)
  | n + 1, '\\' :: cs =>
    let cs := match cs with
      | '0' :: d :: rest => if isOctal d then d :: rest else cs
      | _ => cs
    let (c, rest) := readEscape cs
    expandEscapes (c :: done) n rest
  | n + 1, c :: cs => expandEscapes (c :: done) n cs

/-- What a text with escapes gives. -/
def escaped (text : String) : String × Bool :=
  let (cs, stopped) := expandEscapes [] (text.length + 1) text.toList
  (String.ofList cs, stopped)

end CrossGen.Shell
