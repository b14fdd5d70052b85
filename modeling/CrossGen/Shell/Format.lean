import CrossGen.Shell.Arithmetic
import CrossGen.Shell.Escape
import CrossGen.Text.Likeness

/-!
# Formats

Printing arguments by a format. A conversion has flags, a least width and a precision, and takes the
next argument; a format is used again as long as there are arguments.
-/

namespace CrossGen.Shell

/-- The flags, the least width and the precision of a conversion. -/
structure Layout where
  left : Bool
  zeros : Bool
  plus : Bool
  blank : Bool
  marked : Bool
  width : Nat
  precision : Option Nat

namespace Layout

/-- The text at the width of a layout. -/
def pad (layout : Layout) (text : String) : String :=
  let gap := layout.width - text.length
  if layout.left then text ++ "".pushn ' ' gap else "".pushn ' ' gap ++ text

/-- The sign of a number in a layout. -/
def sign (layout : Layout) (isNegative : Bool) : String :=
  if isNegative then "-"
  else if layout.plus then "+"
  else if layout.blank then " "
  else ""

/-- A number at the width of a layout, which may be filled up with zeros behind the sign. -/
def number (layout : Layout) (fills : Bool) (sign digits : String) : String :=
  let zeros :=
    if fills && layout.zeros && !layout.left then layout.width - digits.length - sign.length else 0
  layout.pad (sign ++ "".pushn '0' zeros ++ digits)

/-- A whole number in a layout. -/
def whole (layout : Layout) (sign : String) (base : Nat) (upper : Bool) (value : Nat) : String :=
  let digits := String.ofList (Nat.toDigits base value)
  let digits := if upper then digits.toUpper else digits
  let digits := if layout.precision = some 0 && value = 0 then "" else digits
  let least := layout.precision.getD 0
  let least := if layout.marked && base = 8 then max least (digits.length + 1) else least
  let mark := if layout.marked && base = 16 && value ≠ 0 then if upper then "0X" else "0x" else ""
  layout.number layout.precision.isNone (sign ++ mark)
    ("".pushn '0' (least - digits.length) ++ digits)

end Layout

/-- The rounded value of a ratio times a power of ten, a half going to the even neighbour. -/
def scaled (value : Text.Ratio) (power : Int) : Nat :=
  let numerator := value.numerator * Nat.pow 10 power.toNat
  let denominator := value.denominator * Nat.pow 10 (-power).toNat
  if denominator = 0 then 0
  else
    let whole := numerator / denominator
    let rest := numerator % denominator
    if denominator < 2 * rest || (denominator == 2 * rest && whole % 2 == 1) then whole + 1
    else whole

/-- A value with the given number of places behind the point. -/
def fixedPoint (marked : Bool) (value : Text.Ratio) (places : Nat) : String :=
  let digits := toString (scaled value places)
  let digits := "".pushn '0' (places + 1 - digits.length) ++ digits
  let whole := (digits.toList.take (digits.length - places))
  let part := digits.toList.drop (digits.length - places)
  String.ofList whole ++ (if part.isEmpty && !marked then "" else "." ++ String.ofList part)

/-- The power of ten of the first digit of a value that is rounded to some places behind it. -/
def exponentOf (value : Text.Ratio) (places : Nat) : Int :=
  if value.numerator = 0 || value.denominator = 0 then 0
  else
    let guess : Int :=
      ((toString value.numerator).length : Int) - (toString value.denominator).length
    let isExact := value.denominator * Nat.pow 10 guess.toNat ≤
      value.numerator * Nat.pow 10 (-guess).toNat
    let exact := if isExact then guess else guess - 1
    if (toString (scaled value (places - exact))).length > places + 1 then exact + 1 else exact

/-- A value with one digit in front of the point and a power of ten behind it. -/
def exponential (marked upper : Bool) (value : Text.Ratio) (places : Nat) : String :=
  let exponent := exponentOf value places
  let digits := (toString (scaled value (places - exponent))).toList
  let digits := digits ++ List.replicate (places + 1 - digits.length) '0'
  let size := toString exponent.natAbs
  String.ofList (digits.take 1) ++
    (if places = 0 && !marked then "" else "." ++ String.ofList (digits.drop 1)) ++
    (if upper then "E" else "e") ++ (if exponent < 0 then "-" else "+") ++
    "".pushn '0' (2 - size.length) ++ size

/-- A text of digits behind a point without the zeros at its end. -/
def dropZeros (text : String) : String :=
  if text.toList.contains '.' then
    let cs := text.toList.reverse.dropWhile (· == '0')
    String.ofList ((if cs.head? == some '.' then cs.tail else cs).reverse)
  else text

/-- A value in the shorter of the two ways. -/
def general (marked upper : Bool) (value : Text.Ratio) (precision : Nat) : String :=
  let precision := max precision 1
  let exponent := exponentOf value (precision - 1)
  if exponent < -4 || (precision : Int) ≤ exponent then
    let text := exponential marked upper value (precision - 1)
    if marked then text
    else
      let e := if upper then 'E' else 'e'
      let front := text.toList.takeWhile (· != e)
      dropZeros (String.ofList front) ++ String.ofList (text.toList.drop front.length)
  else
    let text := fixedPoint marked value ((precision : Int) - 1 - exponent).toNat
    if marked then text else dropZeros text

/-- What an argument is as a number, and what is left of it behind the number. -/
structure Numeral (α : Type) where
  value : α
  rest : List Char
  isTooLarge : Bool

/-- The whole number at the start of a text. -/
def readWhole (signed : Bool) (text : String) : Numeral Int :=
  let cs := text.toList.dropWhile fun c => " \t\n\x0b\x0c\r".toList.contains c
  let (isNegative, digits) := match cs with
    | '-' :: cs => (true, cs)
    | '+' :: cs => (false, cs)
    | cs => (false, cs)
  if !digits.head?.any Char.isDigit then ⟨0, text.toList, false⟩
  else
    let (n, rest) := Arithmetic.readNatural digits
    let value : Int := if isNegative then -(n : Int) else n
    if signed then
      let nearest := Arithmetic.clamp value
      ⟨nearest, rest, nearest ≠ value⟩
    else if Arithmetic.modulus ≤ n then ⟨Arithmetic.modulus - 1, rest, true⟩
    else ⟨value % Arithmetic.modulus, rest, false⟩

/-- The decimal number at the start of a text, which may be negative. -/
def readDecimal (text : String) : Numeral (Bool × Text.Ratio) :=
  let cs := text.toList.dropWhile fun c => " \t\n\x0b\x0c\r".toList.contains c
  let (isNegative, cs) := match cs with
    | '-' :: cs => (true, cs)
    | '+' :: cs => (false, cs)
    | cs => (false, cs)
  let whole := cs.takeWhile Char.isDigit
  let cs := cs.drop whole.length
  let (part, cs) := match cs with
    | '.' :: rest =>
      let part := rest.takeWhile Char.isDigit
      if whole.isEmpty && part.isEmpty then ([], cs) else (part, rest.drop part.length)
    | _ => ([], cs)
  if whole.isEmpty && part.isEmpty then ⟨(false, ⟨0, 1⟩), text.toList, false⟩
  else
    let (exponent, cs) : Int × List Char :=
      match cs with
      | e :: rest =>
        let (isSmall, digits) := match rest with
          | '-' :: digits => (true, digits)
          | '+' :: digits => (false, digits)
          | digits => (false, digits)
        let power := digits.takeWhile Char.isDigit
        if (e = 'e' || e = 'E') && !power.isEmpty then
          let n : Int := (String.ofList (power.take 4)).toNat?.getD 0
          (if isSmall then -n else n, digits.drop power.length)
        else (0, cs)
      | [] => (0, [])
    let mantissa := (String.ofList (whole ++ part)).toNat?.getD 0
    let power := exponent - part.length
    ⟨(isNegative, .round ⟨mantissa * Nat.pow 10 power.toNat, Nat.pow 10 (-power).toNat⟩), cs, false⟩

/-- What is wrong with the number in an argument. -/
inductive NumeralFault where
  | missing
  | trailing
  | tooLarge
deriving DecidableEq

def NumeralFault.words : NumeralFault → String
  | missing => "expected numeric value"
  | trailing => "not completely converted"
  | tooLarge => "Numerical result out of range"

def NumeralFault.fullWords : NumeralFault → String
  | missing => "expected a numeric value"
  | trailing => "value not completely converted"
  | tooLarge => "Numerical result out of range"

/-- What passes over a format have given: the text, the arguments that are left, whether any was
taken, whether the output ends there, and what was wrong. A fatal fault ends the command. -/
structure Formatted where
  text : String
  args : List String
  used : Bool
  stopped : Bool
  faults : List (String × NumeralFault)
  fatal : Option String

namespace Formatted

/-- Takes the next argument. -/
def take (done : Formatted) : String × Formatted :=
  (done.args.headD "", { done with args := done.args.tail, used := done.used || !done.args.isEmpty })

def add (done : Formatted) (text : String) : Formatted :=
  { done with text := done.text ++ text }

/-- Notes what is wrong with a number in an argument. -/
def check {α : Type} (done : Formatted) (arg : String) (numeral : Numeral α) : Formatted :=
  let note (fault : NumeralFault) : Formatted :=
    { done with faults := done.faults ++ [(arg, fault)] }
  if !numeral.rest.isEmpty then
    note (if numeral.rest.length = arg.length then .missing else .trailing)
  else if numeral.isTooLarge then note .tooLarge
  else done

/-- Takes a whole number. A quote asks for the number of the character behind it. -/
def takeWhole (done : Formatted) (signed : Bool) : Int × Formatted :=
  let (arg, done) := done.take
  match arg.toList with
  | q :: cs =>
    if q = '\'' || q = '"' then (((cs.head?.map Char.toNat).getD 0 : Nat), done)
    else
      let numeral := readWhole signed arg
      (numeral.value, done.check arg numeral)
  | [] => (0, done)

end Formatted

/-- The characters of flags in front of a width. -/
def isFlag (c : Char) : Bool :=
  "#-+ 0".toList.contains c

/-- Reads a width or a precision, which may be an argument. -/
def readSize (done : Formatted) : List Char → Option Int × List Char × Formatted
  | '*' :: cs =>
    let (n, done) := done.takeWhole true
    (some n, cs, done)
  | cs =>
    let digits := cs.takeWhile Char.isDigit
    (((String.ofList digits).toNat?).map Int.ofNat, cs.drop digits.length, done)

def readLayout (done : Formatted) (cs : List Char) : Layout × List Char × Formatted :=
  let flags := cs.takeWhile isFlag
  let (width, cs, done) := readSize done (cs.drop flags.length)
  let width := width.getD 0
  let (precision, cs, done) : Option Int × List Char × Formatted :=
    match cs with
    | '.' :: cs =>
      let (precision, cs, done) := readSize done cs
      (some (precision.getD 0), cs, done)
    | _ => (none, cs, done)
  let layout : Layout :=
    { left := flags.contains '-' || width < 0
      zeros := flags.contains '0'
      plus := flags.contains '+'
      blank := flags.contains ' '
      marked := flags.contains '#'
      width := width.natAbs
      precision := precision.bind fun n => if n < 0 then none else some n.toNat }
  (layout, cs, done)

/-- Carries out a conversion, if there is one of the letter. -/
def convert? (layout : Layout) (letter : Char) (done : Formatted) : Option Formatted :=
  let cut (text : String) : String :=
    match layout.precision with
    | some most => String.ofList (text.toList.take most)
    | none => text
  let natural (base : Nat) (upper : Bool) : Formatted :=
    let (n, done) := done.takeWhole false
    done.add (layout.whole "" base upper (n % Arithmetic.modulus).toNat)
  let real (write : Bool → Text.Ratio → Nat → String) : Formatted :=
    let (arg, done) := done.take
    let numeral := readDecimal arg
    let done := if arg.isEmpty then done else done.check arg numeral
    let (isNegative, value) := numeral.value
    let digits := write layout.marked value (layout.precision.getD 6)
    done.add (layout.number true (layout.sign isNegative) digits)
  match letter with
  | 's' =>
    let (arg, done) := done.take
    some (done.add (layout.pad (cut arg)))
  | 'b' =>
    let (arg, done) := done.take
    let (text, stopped) := escaped arg
    some { done.add (layout.pad (cut text)) with stopped := stopped }
  | 'c' =>
    let (arg, done) := done.take
    some (done.add (layout.pad (String.singleton (arg.toList.headD '\x00'))))
  | 'd' | 'i' =>
    let (n, done) := done.takeWhole true
    some (done.add (layout.whole (layout.sign (n < 0)) 10 false n.natAbs))
  | 'u' => some (natural 10 false)
  | 'o' => some (natural 8 false)
  | 'x' => some (natural 16 false)
  | 'X' => some (natural 16 true)
  | 'f' | 'F' => some (real fixedPoint)
  | 'e' => some (real fun marked => exponential marked false)
  | 'E' => some (real fun marked => exponential marked true)
  | 'g' => some (real fun marked => general marked false)
  | 'G' => some (real fun marked => general marked true)
  | _ => none

/-- Passes over a format, which takes arguments as it needs them. -/
def formatOnce (done : Formatted) : Nat → List Char → Formatted
  | 0, _ => done
  | _ + 1, [] => done
  | n + 1, '\\' :: cs =>
    let (c, rest) := readEscape cs
    formatOnce (done.add (String.singleton c)) n rest
  | n + 1, '%' :: '%' :: cs => formatOnce (done.add "%") n cs
  | n + 1, '%' :: cs =>
    let (layout, rest, done) := readLayout done cs
    match rest with
    | [] => { done with fatal := some "missing format character" }
    | letter :: rest' =>
      match convert? layout letter done with
      | none =>
        let directive := String.ofList ('%' :: cs.take (cs.length - rest'.length))
        { done with fatal := some (directive ++ ": invalid directive") }
      | some done => if done.stopped then done else formatOnce done n rest'
  | n + 1, c :: cs => formatOnce (done.add (String.singleton c)) n cs

/-- Passes over a format as often as there are arguments for it, at least once. -/
def formatAll (format : List Char) (done : Formatted) : Nat → Formatted
  | 0 => done
  | n + 1 =>
    let done := formatOnce { done with used := false } (format.length + 1) format
    if done.stopped || done.fatal.isSome || !done.used || done.args.isEmpty then done
    else formatAll format done n

/-- What a format gives for the given arguments. -/
def formatted (format : String) (args : List String) : Formatted :=
  formatAll format.toList ⟨"", args, false, false, [], none⟩ (args.length + 1)

end CrossGen.Shell
