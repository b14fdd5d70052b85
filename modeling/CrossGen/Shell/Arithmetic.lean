/-!
# Arithmetic of the shell

Whole numbers of 64 bits with the usual operators. A text is read and evaluated in one go, because an
assignment in it counts for what follows it. Parts that do not matter, such as the branch of a
condition that is not chosen, are read but change nothing.
-/

namespace CrossGen.Shell.Arithmetic

/-- A token of an arithmetic text. -/
inductive Token where
  | number (value : Int)
  | name (text : String)
  | sign (text : String)
  | unknown
deriving DecidableEq

/-- The signs, the longer ones first. -/
def signs : List String :=
  ["<<=", ">>=", "<=", ">=", "==", "!=", "&&", "||", "<<", ">>", "+=", "-=", "*=", "/=", "%=",
    "&=", "|=", "^=", "+", "-", "*", "/", "%", "(", ")", "<", ">", "!", "~", "&", "|", "^", "?",
    ":", "="]

/-- The value of a digit, if it is one in the given base. -/
def digit? (base : Nat) (c : Char) : Option Nat :=
  let value :=
    if c.isDigit then c.toNat - 0x30
    else if c.isLower then c.toNat - 0x61 + 10
    else if c.isUpper then c.toNat - 0x41 + 10
    else base
  if value < base then some value else none

/-- The number that the longest run of digits at the start of a text stands for, and the rest. -/
def readDigits (base n : Nat) : List Char → Nat × List Char
  | [] => (n, [])
  | c :: cs =>
    match digit? base c with
    | some d => readDigits base (n * base + d) cs
    | none => (n, c :: cs)

/-- Reads a natural number. Zeros in front ask for the base 8 or 16. -/
def readNatural : List Char → Nat × List Char
  | '0' :: x :: c :: cs =>
    if (x = 'x' || x = 'X') && (digit? 16 c).isSome then readDigits 16 0 (c :: cs)
    else readDigits 8 0 (x :: c :: cs)
  | '0' :: cs => readDigits 8 0 cs
  | cs => readDigits 10 0 cs

/-- How many numbers there are, in 64 bits. -/
def modulus : Int := Int.pow 2 64

def greatest : Int := modulus / 2 - 1

/-- A number within the 64 bits that there are. -/
def wrap (n : Int) : Int :=
  (n + modulus / 2) % modulus - modulus / 2

/-- The nearest number to `n` that there is. -/
def clamp (n : Int) : Int :=
  max (-(modulus / 2)) (min greatest n)

def tokens : Nat → List Char → List Token
  | 0, _ => []
  | _ + 1, [] => []
  | n + 1, c :: cs =>
    if " \t\n".toList.contains c then tokens n cs
    else if c.isDigit then
      let (value, rest) := readNatural (c :: cs)
      .number (clamp value) :: tokens n rest
    else if c.isAlpha || c = '_' then
      let name := (c :: cs).takeWhile fun d => d.isAlphanum || d = '_'
      .name (String.ofList name) :: tokens n ((c :: cs).drop name.length)
    else
      match signs.find? fun sign => sign.toList.isPrefixOf (c :: cs) with
      | none => [.unknown]
      | some sign => .sign sign :: tokens n ((c :: cs).drop sign.length)

/-- How strongly an operator binds, if it is one between two operands that always counts both. -/
def strength? : String → Option Nat
  | "*" | "/" | "%" => some 8
  | "+" | "-" => some 7
  | "<<" | ">>" => some 6
  | "<" | ">" | "<=" | ">=" => some 5
  | "==" | "!=" => some 4
  | "&" => some 3
  | "^" => some 2
  | "|" => some 1
  | _ => none

/-- The operator that an assignment sign carries out before it assigns. -/
def assigning? : String → Option (Option String)
  | "=" => some none
  | "+=" => some (some "+")
  | "-=" => some (some "-")
  | "*=" => some (some "*")
  | "/=" => some (some "/")
  | "%=" => some (some "%")
  | "<<=" => some (some "<<")
  | ">>=" => some (some ">>")
  | "&=" => some (some "&")
  | "|=" => some (some "|")
  | "^=" => some (some "^")
  | _ => none

/-- A truth value as a number. -/
def truth (b : Bool) : Int :=
  if b then 1 else 0

def bits (n : Int) : BitVec 64 :=
  BitVec.ofInt 64 n

/-- Why a text has no value. An illegal number is the value of a variable. -/
inductive Fault where
  | expecting (what : String)
  | divisionByZero
  | illegalNumber (text : String)
  | readonly (name : String)
deriving DecidableEq

/-- The value of an operation. -/
def apply (sign : String) (a b : Int) : Except Fault Int :=
  match sign with
  | "*" => .ok (wrap (a * b))
  | "/" => if b = 0 then .error .divisionByZero else .ok (wrap (a.tdiv b))
  | "%" => if b = 0 then .error .divisionByZero else .ok (wrap (a.tmod b))
  | "+" => .ok (wrap (a + b))
  | "-" => .ok (wrap (a - b))
  | "<<" => .ok (bits a <<< (b % 64).toNat).toInt
  | ">>" => .ok ((bits a).sshiftRight (b % 64).toNat).toInt
  | "<" => .ok (truth (a < b))
  | ">" => .ok (truth (a > b))
  | "<=" => .ok (truth (a ≤ b))
  | ">=" => .ok (truth (a ≥ b))
  | "==" => .ok (truth (a == b))
  | "!=" => .ok (truth (a != b))
  | "&" => .ok (bits a &&& bits b).toInt
  | "^" => .ok (bits a ^^^ bits b).toInt
  | _ => .ok (bits a ||| bits b).toInt

/-- What is left to be read, and the variables as they are by now. -/
structure State where
  rest : List Token
  value? : String → Option String
  isReadonly : String → Bool
  changed : List (String × Int)

/-- A step of an evaluation. -/
abbrev Eval (α : Type) :=
  StateT State (Except Fault) α

namespace Eval

def fail {α : Type} (fault : Fault) : Eval α :=
  throw fault

def peek : Eval (Option Token) := do
  return (← get).rest.head?

def skip : Eval Unit :=
  modify fun state => { state with rest := state.rest.tail }

/-- The value of a variable as a number. -/
def lookup (name : String) : Eval Int := do
  let state ← get
  match state.changed.find? fun entry => entry.1 == name with
  | some (_, n) => return n
  | none =>
    let text := (state.value? name).getD ""
    let cs := text.toList.dropWhile fun c => " \t\n".toList.contains c
    let (isNegative, digits) := match cs with
      | '-' :: cs => (true, cs)
      | '+' :: cs => (false, cs)
      | cs => (false, cs)
    if cs.isEmpty then return 0
    unless digits.head?.any Char.isDigit do fail (.illegalNumber text)
    let (n, rest) := readNatural digits
    unless rest.all fun c => " \t\n".toList.contains c do fail (.illegalNumber text)
    return clamp (if isNegative then -(n : Int) else n)

/-- Changes a variable. -/
def assign (name : String) (n : Int) : Eval Unit := do
  if (← get).isReadonly name then fail (.readonly name)
  modify fun state => { state with changed := (name, n) :: state.changed }

mutual

def operand (counts : Bool) : Nat → Eval Int
  | 0 => fail (.expecting "primary")
  | n + 1 => do
    match ← peek with
    | some (.number value) => skip; return value
    | some (.name text) => skip; if counts then lookup text else return 0
    | some (.sign "(") =>
      skip
      let value ← assignment counts n
      unless (← peek) = some (.sign ")") do fail (.expecting "')'")
      skip
      return value
    | some (.sign "+") => skip; operand counts n
    | some (.sign "-") => skip; return wrap (-(← operand counts n))
    | some (.sign "!") => skip; return truth ((← operand counts n) == 0)
    | some (.sign "~") => skip; return wrap (-(← operand counts n) - 1)
    | _ => fail (.expecting "primary")

/-- The value of operands joined by operators that bind at least as strongly as `least`. -/
def joined (counts : Bool) (least : Nat) : Nat → Eval Int
  | 0 => fail (.expecting "primary")
  | n + 1 => do
    let left ← operand counts n
    extend counts least left n

/-- The value of `left` with the operations that follow it. -/
def extend (counts : Bool) (least : Nat) (left : Int) : Nat → Eval Int
  | 0 => return left
  | n + 1 => do
    match ← peek with
    | some (.sign sign) =>
      match strength? sign with
      | some strength =>
        if strength < least then return left
        skip
        let right ← joined counts (strength + 1) n
        let value ← if counts then liftM (apply sign left right) else pure right
        extend counts least value n
      | none => return left
    | _ => return left

def conjunction (counts : Bool) : Nat → Eval Int
  | 0 => fail (.expecting "primary")
  | n + 1 => do
    let left ← joined counts 1 n
    if (← peek) = some (.sign "&&") then
      skip
      let right ← conjunction (counts && left != 0) n
      return truth (left != 0 && right != 0)
    else return left

def disjunction (counts : Bool) : Nat → Eval Int
  | 0 => fail (.expecting "primary")
  | n + 1 => do
    let left ← conjunction counts n
    if (← peek) = some (.sign "||") then
      skip
      let right ← disjunction (counts && left == 0) n
      return truth (left != 0 || right != 0)
    else return left

/-- The value of a choice between two branches. -/
def choice (counts : Bool) : Nat → Eval Int
  | 0 => fail (.expecting "primary")
  | n + 1 => do
    let test ← disjunction counts n
    if (← peek) = some (.sign "?") then
      skip
      let yes ← assignment (counts && test != 0) n
      unless (← peek) = some (.sign ":") do fail (.expecting "':'")
      skip
      let no ← choice (counts && test == 0) n
      return if test != 0 then yes else no
    else return test

/-- The value of an assignment, or of a choice. -/
def assignment (counts : Bool) : Nat → Eval Int
  | 0 => fail (.expecting "primary")
  | n + 1 => do
    match (← get).rest with
    | .name text :: .sign sign :: _ =>
      match assigning? sign with
      | some operator =>
        skip
        skip
        let value ← assignment counts n
        if !counts then return value
        let value ← match operator with
          | none => pure value
          | some sign => do liftM (apply sign (← lookup text) value)
        assign text value
        return value
      | none => choice counts n
    | _ => choice counts n

end

end Eval

/-- The value of an arithmetic text, given the variables, and the variables that it sets, the last
one first. -/
def evaluate (value? : String → Option String) (isReadonly : String → Bool) (text : String) :
    Except Fault (Int × List (String × Int)) := do
  let ts := tokens (text.length + 1) text.toList
  let (value, state) ← (Eval.assignment true (8 * ts.length + 16)).run ⟨ts, value?, isReadonly, []⟩
  unless state.rest.isEmpty do throw (.expecting "EOF")
  return (value, state.changed)

end CrossGen.Shell.Arithmetic
