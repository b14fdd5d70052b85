/-!
# SHA-256

The digest of a sequence of bytes: the bytes are padded to whole blocks of 64, the state of eight
words is mixed with one block after the other, and its bytes are written in hexadecimal digits.
-/

namespace CrossGen.Digest

def roundConstants : Array UInt32 := #[
  0x428a2f98, 0x71374491, 0xb5c0fbcf, 0xe9b5dba5, 0x3956c25b, 0x59f111f1, 0x923f82a4, 0xab1c5ed5,
  0xd807aa98, 0x12835b01, 0x243185be, 0x550c7dc3, 0x72be5d74, 0x80deb1fe, 0x9bdc06a7, 0xc19bf174,
  0xe49b69c1, 0xefbe4786, 0x0fc19dc6, 0x240ca1cc, 0x2de92c6f, 0x4a7484aa, 0x5cb0a9dc, 0x76f988da,
  0x983e5152, 0xa831c66d, 0xb00327c8, 0xbf597fc7, 0xc6e00bf3, 0xd5a79147, 0x06ca6351, 0x14292967,
  0x27b70a85, 0x2e1b2138, 0x4d2c6dfc, 0x53380d13, 0x650a7354, 0x766a0abb, 0x81c2c92e, 0x92722c85,
  0xa2bfe8a1, 0xa81a664b, 0xc24b8b70, 0xc76c51a3, 0xd192e819, 0xd6990624, 0xf40e3585, 0x106aa070,
  0x19a4c116, 0x1e376c08, 0x2748774c, 0x34b0bcb5, 0x391c0cb3, 0x4ed8aa4a, 0x5b9cca4f, 0x682e6ff3,
  0x748f82ee, 0x78a5636f, 0x84c87814, 0x8cc70208, 0x90befffa, 0xa4506ceb, 0xbef9a3f7, 0xc67178f2]

/-- The eight words that the digest is made of. -/
structure State where
  a : UInt32
  b : UInt32
  c : UInt32
  d : UInt32
  e : UInt32
  f : UInt32
  g : UInt32
  h : UInt32

/-- The state before the first block. -/
def State.start : State :=
  ⟨0x6a09e667, 0xbb67ae85, 0x3c6ef372, 0xa54ff53a, 0x510e527f, 0x9b05688c, 0x1f83d9ab, 0x5be0cd19⟩

/-- The sum of two states, word by word. -/
def State.add (x y : State) : State :=
  ⟨x.a + y.a, x.b + y.b, x.c + y.c, x.d + y.d, x.e + y.e, x.f + y.f, x.g + y.g, x.h + y.h⟩

def State.words (x : State) : List UInt32 :=
  [x.a, x.b, x.c, x.d, x.e, x.f, x.g, x.h]

/-- A word turned to the right by `n` bits, where `n` is from 1 to 31. -/
def rotate (x : UInt32) (n : UInt32) : UInt32 :=
  (x >>> n) ||| (x <<< (32 - n))

/-- The padding after `size` bytes: a one bit, zeros, and the number of bits in eight bytes, so
that the whole is a multiple of 64 bytes. -/
def padding (size : Nat) : ByteArray :=
  let zeros := (119 - size % 64) % 64
  let bits := size * 8
  ⟨((0x80 : UInt8) :: List.replicate zeros 0 ++
    (List.range 8).map fun i => UInt8.ofNat (bits >>> (8 * (7 - i)))).toArray⟩

/-- The word of four bytes, the first of which is the most significant. -/
def wordAt (bytes : ByteArray) (start : Nat) : UInt32 :=
  ((bytes.get! start).toUInt32 <<< 24) ||| ((bytes.get! (start + 1)).toUInt32 <<< 16) |||
    ((bytes.get! (start + 2)).toUInt32 <<< 8) ||| (bytes.get! (start + 3)).toUInt32

/-- One more word of a message schedule of at least 16 words. -/
def extendSchedule (words : Array UInt32) : Array UInt32 :=
  let t := words.size
  let early := words[t - 15]!
  let late := words[t - 2]!
  let small := rotate early 7 ^^^ rotate early 18 ^^^ (early >>> 3)
  let large := rotate late 17 ^^^ rotate late 19 ^^^ (late >>> 10)
  words.push (words[t - 16]! + small + words[t - 7]! + large)

/-- The 64 words that the block at `start` brings to the rounds. -/
def schedule (bytes : ByteArray) (start : Nat) : Array UInt32 :=
  let first := (Array.range 16).map fun i => wordAt bytes (start + 4 * i)
  Nat.fold 48 (fun _ _ words => extendSchedule words) first

/-- One round with its constant and its word. -/
def round (x : State) (constant word : UInt32) : State :=
  let mix := rotate x.e 6 ^^^ rotate x.e 11 ^^^ rotate x.e 25
  let choice := (x.e &&& x.f) ^^^ ((~~~ x.e) &&& x.g)
  let first := x.h + mix + choice + constant + word
  let turn := rotate x.a 2 ^^^ rotate x.a 13 ^^^ rotate x.a 22
  let majority := (x.a &&& x.b) ^^^ (x.a &&& x.c) ^^^ (x.b &&& x.c)
  ⟨first + (turn + majority), x.a, x.b, x.c, x.d + first, x.e, x.f, x.g⟩

/-- The state after the block at `start`. -/
def absorb (bytes : ByteArray) (x : State) (start : Nat) : State :=
  let words := schedule bytes start
  x.add (Nat.fold 64 (fun i _ y => round y roundConstants[i]! words[i]!) x)

/-- The two hexadecimal digits of a byte, in lower case. -/
def byteDigits (b : UInt8) : List Char :=
  [b.toNat / 16, b.toNat % 16].map fun d =>
    if d < 10 then Char.ofNat (0x30 + d) else Char.ofNat (0x61 + d - 10)

/-- The four bytes of a word, the most significant first. -/
def wordBytes (w : UInt32) : List UInt8 :=
  [(w >>> 24).toUInt8, (w >>> 16).toUInt8, (w >>> 8).toUInt8, w.toUInt8]

/-- The SHA-256 digest of `bytes` in 64 hexadecimal digits. -/
def sha256 (bytes : ByteArray) : String :=
  let padded := bytes ++ padding bytes.size
  let final := Nat.fold (padded.size / 64) (fun i _ x => absorb padded x (64 * i)) State.start
  String.ofList ((final.words.flatMap wordBytes).flatMap byteDigits)

end CrossGen.Digest
