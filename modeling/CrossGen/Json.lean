/-!
# JSON values

The values of the format and their text in the indented layout: two spaces for each level, one item
or field on a line, and nothing between the brackets of an empty array or object.
-/

namespace CrossGen

/-- A JSON value. A number is `mantissa / 10 ^ decimals`, and an object lists its fields in order.
-/
inductive Json where
  | null
  | bool (value : Bool)
  | number (mantissa : Int) (decimals : Nat)
  | string (text : String)
  | array (items : List Json)
  | object (fields : List (String × Json))
deriving Repr, Inhabited

namespace Json

/-- A whole number. -/
def nat (n : Nat) : Json :=
  .number n 0

/-- A text, or null where there is none. -/
def ofText? : Option String → Json
  | none => .null
  | some text => .string text

/-- The value of a field of an object. -/
def field? (name : String) (fields : List (String × Json)) : Option Json :=
  (fields.find? fun field => field.1 == name).map Prod.snd

/-- The hexadecimal digit of a number below 16, in lower case. -/
def hexDigit (n : Nat) : Char :=
  if n < 10 then Char.ofNat (0x30 + n) else Char.ofNat (0x61 + n - 10)

/-- A character as it stands between the quotes of a string: quote, backslash and the control
characters below U+0020 are escaped, by a letter where there is one. -/
def escape (c : Char) : List Char :=
  if c = '"' then ['\\', '"']
  else if c = '\\' then ['\\', '\\']
  else if c = '\n' then ['\\', 'n']
  else if c = '\r' then ['\\', 'r']
  else if c = '\t' then ['\\', 't']
  else if c.val = 0x08 then ['\\', 'b']
  else if c.val = 0x0C then ['\\', 'f']
  else if c.val < 0x20 then
    ['\\', 'u', '0', '0', hexDigit (c.toNat / 16), hexDigit (c.toNat % 16)]
  else [c]

/-- A text between quotes. -/
def quote (text : String) : String :=
  String.ofList ('"' :: text.toList.flatMap escape ++ ['"'])

/-- The text of a number that has no digits after the point, or that many of them. -/
def numberText (mantissa : Int) (decimals : Nat) : String :=
  if decimals = 0 then toString mantissa
  else
    let digits := toString mantissa.natAbs
    let padded := "".pushn '0' (decimals + 1 - digits.length) ++ digits
    let cut := padded.length - decimals
    (if mantissa < 0 then "-" else "") ++ String.ofList (padded.toList.take cut) ++ "." ++
      String.ofList (padded.toList.drop cut)

/-- The start of a line at the given depth. -/
def indent (depth : Nat) : String :=
  "\n" ++ "".pushn ' ' (2 * depth)

mutual

/-- The indented text of a value that stands at the given depth. -/
def prettyAt (depth : Nat) : Json → String
  | .null => "null"
  | .bool value => if value then "true" else "false"
  | .number mantissa decimals => numberText mantissa decimals
  | .string text => quote text
  | .array [] => "[]"
  | .array (item :: items) =>
    "[" ++ indent (depth + 1) ++ prettyAt (depth + 1) item ++ prettyItems (depth + 1) items ++
      indent depth ++ "]"
  | .object [] => "\x7b\x7d"
  | .object ((name, value) :: fields) =>
    "\x7b" ++ indent (depth + 1) ++ quote name ++ ": " ++ prettyAt (depth + 1) value ++
      prettyFields (depth + 1) fields ++ indent depth ++ "\x7d"

/-- The items of an array after the first. -/
def prettyItems (depth : Nat) : List Json → String
  | [] => ""
  | item :: items => "," ++ indent depth ++ prettyAt depth item ++ prettyItems depth items

/-- The fields of an object after the first. -/
def prettyFields (depth : Nat) : List (String × Json) → String
  | [] => ""
  | (name, value) :: fields =>
    "," ++ indent depth ++ quote name ++ ": " ++ prettyAt depth value ++ prettyFields depth fields

end

/-- The indented text of a value. -/
def pretty (value : Json) : String :=
  prettyAt 0 value

end Json

end CrossGen
