/-!
# Directives

The two directives that combining acts on. Blanks may stand before and after the mark of a
directive; what follows the recognised part of a line does not matter.
-/

namespace CrossGen

namespace Text

/-- Whether `c` has the Unicode property `White_Space`. -/
def isBlank (c : Char) : Bool :=
  (0x09 ≤ c.val && c.val ≤ 0x0D) || c.val == 0x20 || c.val == 0x85 || c.val == 0xA0 ||
    c.val == 0x1680 || (0x2000 ≤ c.val && c.val ≤ 0x200A) || c.val == 0x2028 ||
    c.val == 0x2029 || c.val == 0x202F || c.val == 0x205F || c.val == 0x3000

/-- The text after its leading blank characters. -/
def dropBlanks (cs : List Char) : List Char :=
  cs.dropWhile isBlank

end Text

namespace Combine

/-- The text after `start`, if the given text starts so. -/
def after? : (start : List Char) → List Char → Option (List Char)
  | [], cs => some cs
  | _ :: _, [] => none
  | a :: start, c :: cs => if a = c then after? start cs else none

/-- The text after the mark of a directive. -/
def directive? (line : String) : Option (List Char) :=
  (after? ['#'] (Text.dropBlanks line.toList)).map Text.dropBlanks

/-- The name between the quotes of an include directive. An empty name is none. -/
def includeName? (line : String) : Option String := do
  let rest ← (directive? line).bind (after? "include".toList)
  let rest ← after? ['"'] (Text.dropBlanks rest)
  match rest.span (· != '"') with
  | ([], _) => none
  | (_, []) => none
  | (name, _ :: _) => some (String.ofList name)

/-- Whether a line asks that its file be included only once. -/
def isPragmaOnce (line : String) : Bool :=
  (((directive? line).bind (after? "pragma".toList)).bind
    fun rest => after? "once".toList (Text.dropBlanks rest)).isSome

end Combine

end CrossGen
