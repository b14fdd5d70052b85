import CrossGen.Shell.Message

/-!
# Conditions

The tests of files, texts and numbers that scripts branch on. They are joined by signs of their own,
and it depends on what stands around it whether an operand is such a sign.
-/

namespace CrossGen.Shell.Condition

/-- What an operand is taken for. -/
inductive Role where
  | nothing
  | operand
  | unary
  | binary
  | negation
  | conjunction
  | disjunction
  | opening
  | closing
deriving DecidableEq

/-- The tests of one operand. -/
def unaries : List String :=
  ["-r", "-w", "-x", "-e", "-f", "-d", "-c", "-b", "-p", "-u", "-g", "-k", "-s", "-t", "-z", "-n",
    "-h", "-O", "-G", "-L", "-S"]

/-- The tests of two operands. -/
def binaries : List String :=
  ["=", "!=", "<", ">", "-eq", "-ne", "-gt", "-lt", "-ge", "-le", "-nt", "-ot", "-ef"]

/-- What an operand can be taken for by itself. -/
def roleOf (text : String) : Role :=
  if unaries.contains text then .unary
  else if binaries.contains text then .binary
  else
    match text with
    | "!" => .negation
    | "-a" => .conjunction
    | "-o" => .disjunction
    | "(" => .opening
    | ")" => .closing
    | _ => .operand

/-- What the first of some operands is taken for. A test of one operand needs one, and gives way to a
test of two. -/
def role : List String → Role
  | [] => .nothing
  | text :: rest =>
    match roleOf text, rest with
    | .unary, [] => .operand
    | .unary, [_] => .unary
    | .unary, sign :: right :: _ =>
      if roleOf sign = .binary && right != ")" then .operand else .unary
    | .opening, [] => .operand
    | own, _ => own

/-- What conditions are about. -/
structure View where
  files : FileSystem
  directory : Location

/-- The node that a path leads to. -/
def View.node? (view : View) (path : String) : Option Node :=
  if path.isEmpty then none
  else (view.files.locate view.directory (hostPath path)).toOption.bind view.files.node?

/-- Whether a link stands at a path. -/
def View.isLink (view : View) (path : String) : Bool :=
  let p := hostPath path
  match view.files.placeAbove view.directory p, p.names.getLast? with
  | .ok (.node dir), some name =>
    match view.files.node? (dir.child name) with
    | some (.link _) => !p.endsInSeparator
    | _ => false
  | _, _ => false

/-- The outcome of a test of one operand. -/
def unary (view : View) (sign text : String) : Except String Bool :=
  let node := view.node? text
  match sign with
  | "-n" => .ok (!text.isEmpty)
  | "-z" => .ok text.isEmpty
  | "-f" => .ok (node.any Node.isFile)
  | "-d" => .ok (node == some .directory)
  | "-x" =>
    .ok (match node with
      | some (.file _ executable) => executable
      | some .directory => true
      | _ => false)
  | "-s" =>
    .ok (match node with
      | some (.file content _) => !content.isEmpty
      | some .directory => true
      | _ => false)
  | "-c" =>
    .ok (match node with
      | some (.device _) => true
      | _ => false)
  | "-h" | "-L" => .ok (view.isLink text)
  | "-r" | "-w" =>
    .ok (match node with
      | some (.sealed _) | none => false
      | _ => true)
  | "-e" | "-O" | "-G" => .ok node.isSome
  | "-t" => if (decimal? text).isSome then .ok false else .error ("Illegal number: " ++ text)
  | _ => .ok false

/-- The number that an operand stands for. -/
def number (text : String) : Except String Int :=
  match decimal? text with
  | some n => .ok n
  | none => .error ("Illegal number: " ++ text)

/-- The outcome of a test of two operands. -/
def binary (view : View) (left sign right : String) : Except String Bool := do
  match sign with
  | "=" => return left == right
  | "!=" => return left != right
  | "<" => return left < right
  | ">" => return right < left
  | "-nt" | "-ot" => return false
  | "-ef" =>
    let place (path : String) : Option Location :=
      (view.files.locate view.directory (hostPath path)).toOption
    return (place left).isSome && place left == place right
  | _ =>
    let a ← number left
    let b ← number right
    return match sign with
      | "-eq" => a == b
      | "-ne" => a != b
      | "-lt" => decide (a < b)
      | "-le" => decide (a ≤ b)
      | "-gt" => decide (a > b)
      | _ => decide (a ≥ b)

mutual

/-- The outcome of conditions of which one has to hold, and the operands from the last one on that
was looked at. -/
def disjunction (view : View) (own : Role) (operands : List String) :
    Nat → Except String (Bool × List String)
  | 0 => .ok (false, operands)
  | n + 1 => do
    let (value, operands) ← conjunction view own operands n
    if role operands.tail = .disjunction then
      let rest := operands.drop 2
      let (other, operands) ← disjunction view (role rest) rest n
      return (value || other, operands)
    else return (value, operands)

/-- The outcome of conditions all of which have to hold. -/
def conjunction (view : View) (own : Role) (operands : List String) :
    Nat → Except String (Bool × List String)
  | 0 => .ok (false, operands)
  | n + 1 => do
    let (value, operands) ← negation view own operands n
    if role operands.tail = .conjunction then
      let rest := operands.drop 2
      let (other, operands) ← conjunction view (role rest) rest n
      return (value && other, operands)
    else return (value, operands)

def negation (view : View) (own : Role) (operands : List String) :
    Nat → Except String (Bool × List String)
  | 0 => .ok (false, operands)
  | n + 1 => do
    if own = .negation then
      let rest := operands.tail
      let (value, operands) ← negation view (role rest) (if rest.isEmpty then operands else rest) n
      return (!value, operands)
    else primary view own operands n

/-- The outcome of a single condition. -/
def primary (view : View) (own : Role) (operands : List String) :
    Nat → Except String (Bool × List String)
  | 0 => .ok (false, operands)
  | n + 1 => do
    match own, operands with
    | .nothing, _ => return (false, operands)
    | _, [] => return (false, [])
    | .opening, _ :: rest =>
      if role rest = .closing then return (false, rest)
      let (value, rest) ← disjunction view (role rest) rest n
      unless role rest.tail = .closing do throw "closing paren expected"
      return (value, rest.tail)
    | .unary, sign :: rest =>
      match rest with
      | [] => throw (sign ++ ": argument expected")
      | operand :: _ => return (← unary view sign operand, rest)
    | _, left :: rest =>
      match role rest, rest with
      | .binary, sign :: right :: after =>
        return (← binary view left sign right, right :: after)
      | .binary, [sign] => throw (sign ++ ": argument expected")
      | _, _ => return (!left.isEmpty, operands)

end

/-- The outcome of a test that begins in a known role. -/
def begin? (view : View) (own : Role) (operands : List String) : Except String Bool := do
  let (value, rest) ← disjunction view own operands (4 * operands.length + 8)
  match rest with
  | text :: _ :: _ => throw (text ++ ": unexpected operator")
  | _ => return value

/-- The outcome of a test. Few operands are taken for what they are meant to be. -/
def holds (view : View) : Nat → List String → Except String Bool
  | 0, _ => .ok false
  | n + 1, operands =>
    match operands with
    | [] => .ok false
    | [left, sign, right] =>
      if roleOf sign = .binary then begin? view .operand operands
      else if left == "(" && right == ")" then begin? view (role [sign]) [sign]
      else if left == "!" then (holds view n [sign, right]).map (!·)
      else begin? view (role operands) operands
    | [first, second, third, fourth] =>
      if first == "(" && fourth == ")" then
        begin? view (role [second, third]) [second, third]
      else if first == "!" then (holds view n [second, third, fourth]).map (!·)
      else begin? view (role operands) operands
    | _ => begin? view (role operands) operands

end CrossGen.Shell.Condition
