import CrossGen.Shell.Reader.Word

/-!
# Reading tokens

A token is a sign, a word, or the beginning of a redirection. Some words are keywords where a
command may begin. A token that was read too early is put back.
-/

namespace CrossGen.Shell

/-- The words that have a meaning of their own as the first of a command. -/
def keywords : List String :=
  ["!", "case", "do", "done", "elif", "else", "esac", "fi", "for", "if", "in", "then", "until",
    "while", "\x7b", "\x7d"]

/-- The signs that stand between commands, those that begin with another one in front of it. -/
def signs : List String :=
  ["&&", "||", ";;", ";", "&", "|", "(", ")"]

namespace Token

/-- A text as a message quotes it. -/
def cited (text : String) : String :=
  "\"" ++ text ++ "\""

/-- How a message names a token. -/
def label : Token → String
  | endOfFile => "end of file"
  | newline => "newline"
  | sign text | keyword text => cited text
  | word _ => "word"
  | redirection .. | document .. => "redirection"

/-- A word that is a keyword as such. -/
def asKeyword : Token → Token
  | word w =>
    match plainText? w with
    | some text => if keywords.contains text then keyword text else word w
    | none => word w
  | token => token

def isSign (text : String) : Token → Bool
  | sign own => own == text
  | _ => false

def isKeyword (text : String) : Token → Bool
  | keyword own => own == text
  | _ => false

/-- Whether a token ends the list of commands in front of it. -/
def endsList : Token → Bool
  | endOfFile => true
  | sign text => text == ")" || text == ";;"
  | keyword text => ["then", "elif", "else", "fi", "do", "done", "esac", "\x7d"].contains text
  | _ => false

end Token

namespace Reader

/-- Reads the beginning of a redirection of a descriptor, of which the angle has not been read yet.
-/
def readAngle (descriptor : Option Nat) : Reader Token := do
  if ← dropIf '>' then
    let kind : RedirectionKind ←
      if ← dropIf '>' then pure .append
      else if ← dropIf '|' then pure .overwrite
      else if ← dropIf '&' then pure .duplicate
      else pure .write
    return .redirection (descriptor.getD 1) kind
  else
    drop 1
    let descriptor := descriptor.getD 0
    if ← dropIf '<' then
      return .document descriptor (← dropIf '-')
    let kind : RedirectionKind ←
      if ← dropIf '&' then pure .duplicate
      else if ← dropIf '>' then pure .update
      else pure .read
    return .redirection descriptor kind

/-- Reads the next token from the characters that are left. -/
def scan (inner : Inner) : Reader Token := do
  skipGap (← budget)
  match ← peek with
  | [] => return .endOfFile
  | '\n' :: _ => drop 1; return .newline
  | cs =>
    match signs.find? fun sign => sign.toList.isPrefixOf (cs.take 1) with
    | some _ =>
      let c := cs.headD ' '
      drop 1
      if c = '(' || c = ')' then return .sign (String.singleton c)
      if ← dropIf c then return .sign (String.ofList [c, c])
      else return .sign (String.singleton c)
    | none =>
      if cs.head? == some '<' || cs.head? == some '>' then readAngle none
      else
        let word ← readWord inner
        let next := (← peek).head?
        match plainText? word with
        | some text =>
          if (next == some '<' || next == some '>') && text.length = 1 then
            match text.toNat? with
            | some descriptor => readAngle (some descriptor)
            | none => return .word word
          else return .word word
        | none => return .word word

/-- Reads tokens up to the first that is no line end, if `token` is one. -/
def skipLines (inner : Inner) (token : Token) : Nat → Reader Token
  | 0 => return token
  | n + 1 => do
    match token with
    | .newline => skipLines inner (← scan inner) n
    | _ => return token

/-- Where a token is looked for: between the words of a command, in front of a command, or in front
of a command that may be on another line. -/
inductive Spot where
  | inside
  | start
  | anywhere
deriving DecidableEq

def next (inner : Inner) (spot : Spot) : Reader Token := do
  let token ← match (← get).waiting with
    | some token =>
      modify fun source => { source with waiting := none }
      pure token
    | none => scan inner
  match spot with
  | .inside => return token
  | .start => return token.asKeyword
  | .anywhere => return (← skipLines inner token (← budget)).asKeyword

/-- Puts a token back, so that it is the next one again. -/
def putBack (token : Token) : Reader Unit :=
  modify fun source => { source with waiting := some token }

/-- Ends the reading because of a token. -/
def refuse {α : Type} (token : Token) : Reader α :=
  fail (token.label ++ " unexpected")

/-- Ends the reading because a token is not the one that is wanted. -/
def refuseFor {α : Type} (token : Token) (wanted : String) : Reader α :=
  fail (token.label ++ " unexpected (expecting " ++ Token.cited wanted ++ ")")

/-- Takes a keyword that has to follow. -/
def expectKeyword (inner : Inner) (spot : Spot) (text : String) : Reader Unit := do
  let token ← next inner spot
  unless token.isKeyword text do refuseFor token text

/-- Takes a sign that has to follow. -/
def expectSign (inner : Inner) (text : String) : Reader Unit := do
  let token ← next inner .inside
  unless token.isSign text do refuseFor token text

end Reader

end CrossGen.Shell
