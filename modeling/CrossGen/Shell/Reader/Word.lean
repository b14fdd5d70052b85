import CrossGen.Shell.Reader.Basic

/-!
# Reading words

A word ends at a blank or a sign that is not quoted. What stands for a value in it is read, but not
replaced yet. A word may hold scripts, whose reader is given from outside.
-/

namespace CrossGen.Shell.Reader

/-- What ends the text that is being read. Inside the braces of a parameter that is quoted, a pair
of quotes only keeps a closing brace from ending it. Arithmetic ends at two parentheses. -/
inductive Ending where
  | word
  | quote
  | brace (quoted : Bool)
  | innerQuote
  | document
  | parentheses (depth : Nat)
deriving DecidableEq

/-- Whether text in front of an ending is quoted. -/
def Ending.isQuoted : Ending → Bool
  | word | brace false => false
  | _ => true

/-- The characters that lose their meaning behind a backslash inside quotes. -/
def Ending.escapable : Ending → List Char
  | brace _ | innerQuote => ['$', '`', '"', '\\', '\x7d']
  | document => ['$', '`', '\\']
  | _ => ['$', '`', '"', '\\']

/-- The parts between quotes, which make a field even if they are empty, unless they are only the
list of the arguments. -/
def keepField (quotation : Word) : Word :=
  match quotation with
  | [.parameter "@" .value [] true] => quotation
  | _ =>
    if quotation.any fun part => part matches .literal .. then quotation
    else .literal "" true :: quotation

/-- Where the text of a use ends. Patterns are not quoted by the quotes around the parameter. -/
def useEnding (use : Use) (quoted : Bool) : Ending :=
  .brace (quoted && !(use matches .trimmed ..))

/-- Adds a literal to the parts of a word, the last of which stands in front. -/
def addLiteral (text : String) (quoted : Bool) : Word → Word
  | .literal before wasQuoted :: parts =>
    if wasQuoted == quoted then .literal (before ++ text) quoted :: parts
    else .literal text quoted :: .literal before wasQuoted :: parts
  | parts => .literal text quoted :: parts

/-- The special parameters, which have one sign as their name. -/
def isSpecial (c : Char) : Bool :=
  "@*#?$!-".toList.contains c || c.isDigit

/-- Reads how a parameter is used, after its name. A use that is not known stays unread. -/
def readUse : Reader Use := do
  let orEmpty ← dropIf ':'
  match ← peek with
  | '-' :: _ => drop 1; return .otherwise orEmpty
  | '+' :: _ => drop 1; return .instead orEmpty
  | '=' :: _ => drop 1; return .assigned orEmpty
  | '?' :: _ => drop 1; return .demanded orEmpty
  | '\x7d' :: _ => return if orEmpty then .unclear else .value
  | '%' :: _ =>
    if orEmpty then return .unclear
    drop 1
    return .trimmed true (← dropIf '%')
  | '#' :: _ =>
    if orEmpty then return .unclear
    drop 1
    return .trimmed false (← dropIf '#')
  | _ => return .unclear

/-- Reads the name of a parameter between braces, and how it is used. A sharp sign in front asks for
the length of the value, unless it is the name itself. -/
def readBracedName : Reader (String × Use) := do
  match ← peek with
  | c :: cs =>
    if isNameStart c then
      let name ← takeWhile isNameChar [] (← budget)
      return (String.ofList name, ← readUse)
    else if c.isDigit then
      let name ← takeWhile Char.isDigit [] (← budget)
      return (String.ofList name, ← readUse)
    else if c = '#' then
      match cs with
      | d :: ds =>
        if isNameStart d || d.isDigit then
          drop 1
          let name ← takeWhile (if d.isDigit then Char.isDigit else isNameChar) [] (← budget)
          let closed := (← peek).head? == some '\x7d'
          return (String.ofList name, if closed then .length else .unclear)
        else if isSpecial d && ds.head? == some '\x7d' then
          drop 2
          return (String.singleton d, .length)
        else
          drop 1
          return ("#", ← readUse)
      | [] => drop 1; return ("#", .unclear)
    else if isSpecial c then
      drop 1
      return (String.singleton c, ← readUse)
    else return ("", .unclear)
  | [] => return ("", .unclear)

/-- Takes the text of an output up to the backquote that ends it. A backslash keeps a backquote, a
dollar sign or another backslash for the inner script, and between quotes a quote as well. -/
def takeBackquoted (quoted : Bool) (taken : List Char) : Nat → Reader String
  | 0 => failAtEnd
  | n + 1 => do
    match ← peek with
    | [] => fail "EOF in backquote substitution"
    | '`' :: _ => drop 1; return String.ofList taken.reverse
    | '\\' :: c :: _ =>
      drop 2
      if "\\`$".toList.contains c || (quoted && c == '"') then
        takeBackquoted quoted (c :: taken) n
      else takeBackquoted quoted (c :: '\\' :: taken) n
    | c :: _ => drop 1; takeBackquoted quoted (c :: taken) n

/-- A reader of the script inside a word, which may have to end at a closing parenthesis. -/
abbrev Inner :=
  Bool → Reader Script

/-- Reads a script from a text of its own, up to what does not belong to it. -/
def readApart (inner : Inner) (text : String) : Reader Script := do
  match (inner false).run (Source.ofText text 1) with
  | .ok (script, _) => return script
  | .error mistake => throw mistake

mutual

/-- Reads what stands for a value after a dollar sign. -/
def readDollar (inner : Inner) (quoted : Bool) : Nat → Reader Part
  | 0 => failAtEnd
  | n + 1 => do
    match ← peek with
    | '(' :: _ =>
      drop 1
      if ← dropIf '(' then
        return .arithmetic (← readParts inner (.parentheses 0) [] n) quoted
      else
        return .output (← inner true) quoted
    | '\x7b' :: _ =>
      drop 1
      let (name, use) ← readBracedName
      return .parameter name use (← readParts inner (useEnding use quoted) [] n) quoted
    | c :: _ =>
      if isNameStart c then
        return .parameter (String.ofList (← takeWhile isNameChar [] (← budget))) .value [] quoted
      else if isSpecial c then
        drop 1
        return .parameter (String.singleton c) .value [] quoted
      else return .literal "$" quoted
    | [] => return .literal "$" quoted

/-- Reads parts up to their end, after the given ones, the last of which stands in front. -/
def readParts (inner : Inner) (ending : Ending) (parts : Word) : Nat → Reader Word
  | 0 => failAtEnd
  | n + 1 => do
    let quoted := ending.isQuoted
    let plain (c : Char) : Reader Word := do
      drop 1
      readParts inner ending (addLiteral (String.singleton c) quoted parts) n
    match ← peek with
    | [] =>
      match ending with
      | .word | .document => return parts.reverse
      | .quote | .innerQuote => fail "Unterminated quoted string"
      | .brace _ => fail "Missing '\x7d'"
      | .parentheses _ => fail "Missing '))'"
    | '$' :: _ =>
      drop 1
      readParts inner ending ((← readDollar inner quoted n) :: parts) n
    | '\\' :: c :: _ =>
      drop 2
      if quoted && !ending.escapable.contains c then
        readParts inner ending (addLiteral ("\\" ++ String.singleton c) true parts) n
      else readParts inner ending (addLiteral (String.singleton c) true parts) n
    | '`' :: _ =>
      drop 1
      let text ← takeBackquoted quoted [] (← budget)
      readParts inner ending (.output (← readApart inner text) quoted :: parts) n
    | '"' :: _ =>
      match ending with
      | .quote | .innerQuote => drop 1; return parts.reverse
      | .document | .parentheses _ => plain '"'
      | .brace true =>
        drop 1
        readParts inner ending ((← readParts inner .innerQuote [] n).reverse ++ parts) n
      | _ =>
        drop 1
        let quotation := keepField (← readParts inner .quote [] n)
        readParts inner ending (quotation.reverse ++ parts) n
    | '\'' :: cs =>
      if quoted then plain '\''
      else
        let text := cs.takeWhile (· != '\'')
        drop (text.length + 2)
        if text.length = cs.length then fail "Unterminated quoted string"
        readParts inner ending (addLiteral (String.ofList text) true parts) n
    | '\x7d' :: _ =>
      match ending with
      | .brace _ => drop 1; return parts.reverse
      | _ => plain '\x7d'
    | c :: cs =>
      match ending with
      | .word => if endsWord c then return parts.reverse else plain c
      | .parentheses depth =>
        if c = '(' then
          drop 1
          readParts inner (.parentheses (depth + 1)) (addLiteral "(" true parts) n
        else if c = ')' then
          match depth with
          | depth + 1 =>
            drop 1
            readParts inner (.parentheses depth) (addLiteral ")" true parts) n
          | 0 => if cs.head? = some ')' then drop 2; return parts.reverse else plain ')'
        else plain c
      | _ => plain c

end

/-- Reads a word, which has no parts if there is none. -/
def readWord (inner : Inner) : Reader Word := do
  readParts inner .word [] (← budget)

end CrossGen.Shell.Reader
