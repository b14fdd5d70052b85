import CrossGen.Shell.Reader.Token

/-!
# Reading documents

A document is a part of the script that a command reads as a file. It begins behind the line that
asks for it and ends at a line of its own, which is the mark that was given. If nothing of the mark
is quoted, the document is a word like that between quotes.
-/

namespace CrossGen.Shell.Reader

/-- Takes the mark of a document, and says whether a part of it was quoted. -/
def takeMark (taken : List Char) (quoted : Bool) : Nat → Reader (String × Bool)
  | 0 => failAtEnd
  | n + 1 => do
    match ← peek with
    | [] => return (String.ofList taken.reverse, quoted)
    | '\\' :: c :: _ => drop 2; takeMark (c :: taken) true n
    | c :: cs =>
      if c = '\'' || c = '"' then
        let text := cs.takeWhile (· != c)
        drop (text.length + 2)
        if text.length = cs.length then fail "Unterminated quoted string"
        takeMark (text.reverse ++ taken) true n
      else if endsWord c then return (String.ofList taken.reverse, quoted)
      else
        drop 1
        takeMark (c :: taken) quoted n

/-- The number of characters up to the end of the line that is being read. Line ends between quotes
do not count. -/
def lineLength (quote : Option Char) (count : Nat) : List Char → Nat
  | [] => count
  | '\\' :: _ :: cs => lineLength quote (count + 2) cs
  | c :: cs =>
    match quote with
    | some q => lineLength (if c = q then none else quote) (count + 1) cs
    | none =>
      if c = '\n' then count
      else if c = '\'' || c = '"' then lineLength (some c) (count + 1) cs
      else lineLength none (count + 1) cs

/-- What a document is cut out of a script as: its lines, and the characters and lines up to the end
of the mark. -/
structure Cutting where
  lines : List (List Char)
  length : Nat
  count : Nat

/-- Whether a line goes on in the next one. -/
def isContinued (line : List Char) : Bool :=
  (line.reverse.takeWhile (· == '\\')).length % 2 == 1

/-- Cuts the lines up to a mark from the front of a text. A line that is continued hides the mark
behind it. -/
def cutLines (mark : List Char) (stripped joined : Bool) (continued : Bool) (cut : Cutting) :
    Nat → List Char → Cutting
  | 0, _ => cut
  | _ + 1, [] => cut
  | n + 1, cs =>
    let line := cs.takeWhile (· != '\n')
    let rest := cs.drop (line.length + 1)
    let own := if stripped && !continued then line.dropWhile (· == '\t') else line
    let length := cut.length + line.length + 1
    if own == mark && !continued then { cut with length := length, count := cut.count + 1 }
    else
      cutLines mark stripped joined (joined && isContinued own)
        ⟨cut.lines ++ [own ++ (if line.length < cs.length then ['\n'] else [])], length,
          cut.count + 1⟩ n rest

/-- Reads a document, whose text is taken out of the script from behind the present line. -/
def readDocument (inner : Inner) (stripped : Bool) : Reader Word := do
  skipGap (← budget)
  let before ← remaining
  let (mark, quoted) ← takeMark [] false (← budget)
  if (← remaining) = before then refuse (← scan inner)
  let source ← get
  let length := lineLength none 0 source.rest + 1
  let cut := cutLines mark.toList stripped (!quoted) false ⟨[], 0, 0⟩
    (source.rest.length + 1) (source.rest.drop length)
  set { source with
    rest := source.rest.take length ++ source.rest.drop (length + cut.length)
    behind := source.behind + cut.count }
  let text := String.ofList cut.lines.flatten
  if quoted then return [.literal text true]
  let read := readParts inner .document [] (8 * text.length + 64)
  match read.run (Source.ofText text (source.line + source.behind + 1)) with
  | .ok (word, _) => return word
  | .error mistake => throw mistake

end CrossGen.Shell.Reader
