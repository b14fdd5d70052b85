/-!
# Lines

A line of a text runs up to and includes its newline; only the last line may lack one.
-/

namespace CrossGen.Text

/-- The lines of `cs`, where `line` holds the characters of the first one read so far, the last of
them in front. -/
def linesFrom (line : List Char) : List Char → List (List Char)
  | [] => if line.isEmpty then [] else [line.reverse]
  | c :: cs =>
    if c = '\n' then (c :: line).reverse :: linesFrom [] cs else linesFrom (c :: line) cs

/-- Nothing is lost between lines. -/
theorem flatten_linesFrom (line cs : List Char) :
    (linesFrom line cs).flatten = line.reverse ++ cs := by
  induction cs generalizing line with
  | nil =>
    unfold linesFrom
    split
    · next h => simp [List.isEmpty_iff.mp h]
    · simp
  | cons c cs ih =>
    unfold linesFrom
    split
    · rw [List.flatten_cons, ih]
      simp
    · rw [ih]
      simp

/-- The lines of `text`, each with its newline. -/
def lines (text : String) : List String :=
  (linesFrom [] text.toList).map String.ofList

/-- Whether `line` ends in a newline. -/
def endsLine (line : String) : Bool :=
  line.toList.getLast? == some '\n'

/-- A line without its newline, nor the carriage return before that. -/
def stripNewline (line : String) : String :=
  match line.toList.reverse with
  | '\n' :: '\r' :: rest => String.ofList rest.reverse
  | '\n' :: rest => String.ofList rest.reverse
  | _ => line

/-- The first line of `text` without its line end, if there is a line at all. -/
def firstLine? (text : String) : Option String :=
  (lines text).head?.map stripNewline

end CrossGen.Text
