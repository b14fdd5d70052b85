import CrossGen.Shell.Reader.Document

/-!
# Reading commands

A script is read one complete line of commands at a time, so that a mistake further on does not keep
the lines before it from being carried out.
-/

namespace CrossGen.Shell

/-- The commands of the shell that are no functions whatever is defined, and that end a script when
they go wrong. -/
def specialNames : List String :=
  [".", ":", "break", "continue", "eval", "exec", "exit", "export", "local", "readonly", "return",
    "set", "shift", "times", "trap", "unset"]

/-- The command that carries out the given ones, one after the other. -/
def Script.ofList : List Script → Script
  | [script] => script
  | scripts => .block scripts

namespace Reader

/-- How far a list of commands goes: over one line, or over all lines up to what closes the command
around it, in which case there may have to be a command. -/
inductive Extent where
  | line
  | body
  | block
deriving DecidableEq

/-- A word as an assignment, if it starts with a name and an equals sign. -/
def assignment? : Word → Option (String × Word)
  | .literal text false :: parts =>
    let cs := text.toList
    let name := cs.takeWhile isNameChar
    match cs.drop name.length with
    | '=' :: value =>
      if name.head?.any isNameStart then
        some (String.ofList name,
          if value.isEmpty then parts else .literal (String.ofList value) false :: parts)
      else none
    | _ => none
  | _ => none

/-- Reads what a redirection leads to. -/
def readTarget (inner : Inner) : Token → Reader Redirection
  | .document descriptor stripped => do
    return .mk descriptor .document (← readDocument inner stripped)
  | .redirection descriptor kind => do
    match ← next inner .inside with
    | .word word => return .mk descriptor kind word
    | token => refuse token
  | token => refuse token

def beginsRedirection : Token → Bool
  | .document .. | .redirection .. => true
  | _ => false

/-- Reads as many redirections as there are behind a command. -/
def readRedirections (inner : Inner) : Nat → Reader (List Redirection)
  | 0 => return []
  | n + 1 => do
    let token ← next inner .start
    if beginsRedirection token then
      let redirection ← readTarget inner token
      return redirection :: (← readRedirections inner n)
    else
      putBack token
      return []

/-- Reads words up to the first token that is none, which has to end the line or the command. -/
def readWords (inner : Inner) (words : List Word) : Nat → Reader (List Word)
  | 0 => failAtEnd
  | n + 1 => do
    match ← next inner .inside with
    | .word word => readWords inner (word :: words) n
    | .newline => return words.reverse
    | .sign ";" => return words.reverse
    | token => refuse token

/-- Reads the patterns of a clause from the given token on, and the parenthesis behind them. -/
def readPatterns (inner : Inner) (patterns : List Word) (token : Token) :
    Nat → Reader (List Word)
  | 0 => failAtEnd
  | n + 1 => do
    let pattern : Word := match token with
      | .word word => word
      | .keyword text => [.literal text false]
      | _ => []
    let patterns := pattern :: patterns
    match ← next inner .inside with
    | .sign "|" => readPatterns inner patterns (← next inner .inside) n
    | .sign ")" => return patterns.reverse
    | token => refuseFor token ")"

mutual

/-- Reads a list of commands behind those that are done, the last of which stands in front. -/
def readList (inner : Inner) (extent : Extent) (done : List Script) :
    Nat → Reader (List Script)
  | 0 => failAtEnd
  | n + 1 => do
    let token ← next inner (if extent = .line then .start else .anywhere)
    match token with
    | .newline => return done.reverse
    | .endOfFile => putBack token; return done.reverse
    | _ =>
      putBack token
      if token.endsList && (extent = .block || extent = .body && !done.isEmpty) then
        return done.reverse
      let line := (← get).line
      let command ← readConditions inner none n
      let token ← next inner .inside
      match token with
      | .endOfFile => putBack token; return (command :: done).reverse
      | .sign "&" => readList inner extent (.background line command :: done) n
      | .sign ";" => readList inner extent (command :: done) n
      | .newline => putBack token; readList inner extent (command :: done) n
      | _ =>
        if extent = .line then refuse token
        putBack token
        return (command :: done).reverse

def readBody (inner : Inner) (extent : Extent) : Nat → Reader Script
  | 0 => failAtEnd
  | n + 1 => do return .ofList (← readList inner extent [] n)

/-- Reads pipelines behind `first`, joined by conditions. -/
def readConditions (inner : Inner) (first : Option Script) : Nat → Reader Script
  | 0 => failAtEnd
  | n + 1 => do
    let first ← match first with
      | some first => pure first
      | none => readPipeline inner .inside n
    match ← next inner .inside with
    | .sign "&&" =>
      let second ← readPipeline inner .anywhere n
      readConditions inner (some (.both first second)) n
    | .sign "||" =>
      let second ← readPipeline inner .anywhere n
      readConditions inner (some (.either first second)) n
    | token => putBack token; return first

/-- Reads commands joined by pipes, which may be negated. -/
def readPipeline (inner : Inner) (spot : Spot) : Nat → Reader Script
  | 0 => failAtEnd
  | n + 1 => do
    let token ← next inner spot
    let isNegated := token.isKeyword "!"
    putBack (← if isNegated then next inner .start else pure token)
    let commands ← readPiped inner n
    let pipeline := match commands with
      | [command] => command
      | commands => .piped commands
    return if isNegated then .negated pipeline else pipeline

def readPiped (inner : Inner) : Nat → Reader (List Script)
  | 0 => failAtEnd
  | n + 1 => do
    let command ← readCommand inner n
    match ← next inner .inside with
    | .sign "|" =>
      putBack (← next inner .anywhere)
      return command :: (← readPiped inner n)
    | token => putBack token; return [command]

/-- Reads one command that is not joined with another. -/
def readCommand (inner : Inner) : Nat → Reader Script
  | 0 => failAtEnd
  | n + 1 => do
    let line := (← get).line
    let token ← next inner .inside
    let finish (command : Script) : Reader Script := do
      match ← readRedirections inner (← budget) with
      | [] => return command
      | redirections =>
        match command with
        | .subshell line body _ => return .subshell line body redirections
        | command => return .redirected line command redirections
    match token with
    | .sign "(" =>
      let body ← readBody inner .body n
      expectSign inner ")"
      finish (.subshell line body [])
    | .keyword "\x7b" =>
      let body ← readBody inner .body n
      expectKeyword inner .inside "\x7d"
      finish body
    | .keyword "if" => finish (← readBranch inner n)
    | .keyword "while" => finish (← readLoop inner true n)
    | .keyword "until" => finish (← readLoop inner false n)
    | .keyword "for" => finish (← readEach inner line n)
    | .keyword "case" =>
      match ← next inner .inside with
      | .word word =>
        expectKeyword inner .anywhere "in"
        finish (.choice line word (← readClauses inner n))
      | token => fail (token.label ++ " unexpected (expecting word)")
    | .word _ | .redirection .. | .document .. =>
      putBack token
      readSimple inner (← get).line [] [] [] n
    | token => refuse token

/-- Reads a conditional after its first word. -/
def readBranch (inner : Inner) : Nat → Reader Script
  | 0 => failAtEnd
  | n + 1 => do
    let test ← readBody inner .body n
    expectKeyword inner .inside "then"
    let yes ← readBody inner .body n
    let token ← next inner .inside
    if token.isKeyword "elif" then return .branch test yes (← readBranch inner n)
    let no ←
      if token.isKeyword "else" then readBody inner .body n
      else
        putBack token
        pure .empty
    expectKeyword inner .inside "fi"
    return .branch test yes no

/-- Reads a loop after its first word, which goes on while its test has the given outcome. -/
def readLoop (inner : Inner) (whenTrue : Bool) : Nat → Reader Script
  | 0 => failAtEnd
  | n + 1 => do
    let test ← readBody inner .body n
    expectKeyword inner .inside "do"
    let body ← readBody inner .body n
    expectKeyword inner .inside "done"
    return .loop whenTrue test body

/-- Reads a loop over words after its first word. -/
def readEach (inner : Inner) (line : Nat) : Nat → Reader Script
  | 0 => failAtEnd
  | n + 1 => do
    let name := match ← next inner .inside with
      | .word word => (plainText? word).getD ""
      | _ => ""
    unless isName name do fail "Bad for loop variable"
    let token ← next inner .anywhere
    let words ←
      if token.isKeyword "in" then
        pure (some (← readWords inner [] (← budget)))
      else
        unless token.isSign ";" do putBack token
        pure none
    expectKeyword inner .anywhere "do"
    let body ← readBody inner .body n
    expectKeyword inner .inside "done"
    return .each line name words body

/-- Reads the clauses of a choice, and the word that ends it. -/
def readClauses (inner : Inner) : Nat → Reader (List (List Word × Script))
  | 0 => failAtEnd
  | n + 1 => do
    let token ← next inner .anywhere
    if token.isKeyword "esac" then return []
    let token ← if token.isSign "(" then next inner .inside else pure token
    let patterns ← readPatterns inner [] token (← budget)
    let body ← readBody inner .block n
    let token ← next inner .anywhere
    if token.isKeyword "esac" then return [(patterns, body)]
    unless token.isSign ";;" do refuseFor token ";;"
    return (patterns, body) :: (← readClauses inner n)

/-- Reads the rest of a simple command, or of the definition of a function. What has been read of it
stands in reverse order. -/
def readSimple (inner : Inner) (line : Nat) (assignments : List (String × Word))
    (words : List Word) (redirections : List Redirection) : Nat → Reader Script
  | 0 => failAtEnd
  | n + 1 => do
    let token ← next inner .inside
    let finish : Reader Script := do
      putBack token
      return .simple line assignments.reverse words.reverse redirections.reverse
    match token with
    | .word word =>
      match words, assignment? word with
      | [], some assignment =>
        readSimple inner line (assignment :: assignments) words redirections n
      | _, _ => readSimple inner line assignments (word :: words) redirections n
    | .redirection .. | .document .. =>
      let redirection ← readTarget inner token
      readSimple inner line assignments words (redirection :: redirections) n
    | .sign "(" =>
      match words, assignments, redirections with
      | [word], [], [] =>
        expectSign inner ")"
        let name := (plainText? word).getD ""
        if !isName name || specialNames.contains name then fail "Bad function name"
        putBack (← next inner .anywhere)
        return .definition name (← readCommand inner n)
      | _, _, _ => finish
    | _ => finish

end

/-- Reads the script inside a word, which may have to end at a closing parenthesis. -/
def readInner : Nat → Inner
  | 0, _ => failAtEnd
  | depth + 1, closed => do
    let inner := readInner depth
    let script ← readBody inner .block (← budget)
    if closed then expectSign inner ")"
    else modify fun source => { source with waiting := none }
    return script

/-- The depth up to which scripts stand in words of scripts. -/
def innerDepth : Nat := 60

/-- Reads the next complete line of a script, if there is one. -/
def readNext : Reader (Option Script) := do
  let inner := readInner innerDepth
  match ← next inner .start with
  | .endOfFile => putBack .endOfFile; return none
  | .newline => return some .empty
  | token =>
    putBack token
    return some (.ofList (← readList inner .line [] (← budget)))

end Reader

end CrossGen.Shell
