/-!
# Reading bytes as text

Two ways to read bytes as UTF-8: the strict one refuses bytes that are not valid, the lossy one
puts U+FFFD in place of each longest piece that starts a character and does not finish it.

A shell and the programs around it do not read bytes as characters of an alphabet. Their texts have
one character for each byte, and are turned into other texts only where names of files and the
streams of a run are concerned.
-/

namespace CrossGen.Text

/-- The text that `bytes` encode, if they are valid UTF-8. -/
def decode? (bytes : ByteArray) : Option String :=
  String.fromUTF8? bytes

/-- The ranges that the bytes after the leading byte `b` have to lie in, together with the bits
that `b` itself contributes. -/
def continuations (b : UInt8) : Option (Nat × List (UInt8 × UInt8)) :=
  if b < 0x80 then some (b.toNat, [])
  else if b < 0xC2 then none
  else if b < 0xE0 then some (b.toNat - 0xC0, [(0x80, 0xBF)])
  else if b = 0xE0 then some (0, [(0xA0, 0xBF), (0x80, 0xBF)])
  else if b = 0xED then some (0xD, [(0x80, 0x9F), (0x80, 0xBF)])
  else if b < 0xF0 then some (b.toNat - 0xE0, [(0x80, 0xBF), (0x80, 0xBF)])
  else if b = 0xF0 then some (0, [(0x90, 0xBF), (0x80, 0xBF), (0x80, 0xBF)])
  else if b < 0xF4 then some (b.toNat - 0xF0, [(0x80, 0xBF), (0x80, 0xBF), (0x80, 0xBF)])
  else if b = 0xF4 then some (4, [(0x80, 0x8F), (0x80, 0xBF), (0x80, 0xBF)])
  else none

/-- What is left after the bytes of one character, and its number if it is complete. -/
def finishCharacter (value : Nat) :
    List (UInt8 × UInt8) → List UInt8 → Option Nat × List UInt8
  | [], rest => (some value, rest)
  | _ :: _, [] => (none, [])
  | (low, high) :: ranges, b :: rest =>
    if low ≤ b && b ≤ high then finishCharacter (value * 64 + (b.toNat - 0x80)) ranges rest
    else (none, b :: rest)

theorem finishCharacter_length_le (value : Nat) (ranges : List (UInt8 × UInt8))
    (bytes : List UInt8) : (finishCharacter value ranges bytes).2.length ≤ bytes.length := by
  fun_induction finishCharacter value ranges bytes with
  | case1 => simp
  | case2 => simp
  | case3 value low high ranges b rest _ ih => simpa using Nat.le_succ_of_le ih
  | case4 => simp

/-- The characters that `bytes` encode, with U+FFFD for every piece that is not valid. The
characters read so far stand in `done`, the last of them in front. -/
def lossyFrom (done : List Char) (bytes : List UInt8) : List Char :=
  match bytes with
  | [] => done.reverse
  | b :: rest =>
    match continuations b with
    | none => lossyFrom ('\uFFFD' :: done) rest
    | some (value, ranges) =>
      let read := finishCharacter value ranges rest
      lossyFrom (read.1.elim '\uFFFD' Char.ofNat :: done) read.2
termination_by bytes.length
decreasing_by
  · simp
  · exact Nat.lt_succ_of_le (finishCharacter_length_le value ranges rest)

/-- The text that `bytes` encode, with U+FFFD for every piece that is not valid UTF-8. -/
def decodeLossy (bytes : ByteArray) : String :=
  String.ofList (lossyFrom [] bytes.toList)

/-! ## One character for each byte -/

/-- The text with one character for each byte. -/
def octets (bytes : ByteArray) : String :=
  String.ofList (bytes.toList.map fun b => Char.ofNat b.toNat)

/-- The bytes of a text with one character for each byte. -/
def octetBytes (text : String) : ByteArray :=
  ⟨(text.toList.map fun c => c.toNat.toUInt8).toArray⟩

/-- The bytes of a text in UTF-8, with one character for each of them. -/
def toOctets (text : String) : String :=
  octets text.toUTF8

/-- The text whose bytes in UTF-8 are given by one character each. -/
def ofOctets (text : String) : String :=
  decodeLossy (octetBytes text)

end CrossGen.Text
