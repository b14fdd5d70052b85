/-!
# Regular expressions

A regular expression fits stretches of a text. From a place in the text it leads to the places at
which such a stretch may end, together with the stretches that its groups have taken.
-/

namespace CrossGen.Shell

/-- A regular expression. Groups are numbered from 1 on, and a group may be asked for again. -/
inductive Expression where
  | empty
  | anyOne
  | oneOf (within : Bool) (ranges : List (Char × Char))
  | lineStart
  | lineEnd
  | wordStart
  | wordEnd
  | wordEdge (isEdge : Bool)
  | sequence (first second : Expression)
  | choice (first second : Expression)
  | repeated (least : Nat) (most : Option Nat) (body : Expression)
  | group (number : Nat) (body : Expression)
  | again (number : Nat)
deriving Repr

namespace Expression

/-- The expression for a single character. -/
def exactly (c : Char) : Expression :=
  .oneOf true [(c, c)]

/-- How far a text has been matched, and the stretches that groups have taken. -/
structure Progress where
  place : Nat
  groups : List (Nat × Nat × Nat)
deriving DecidableEq

/-- The stretch that a group has taken. -/
def Progress.group? (progress : Progress) (number : Nat) : Option (Nat × Nat) :=
  (progress.groups.find? fun entry => entry.1 == number).map Prod.snd

/-- The text that is matched against, and whether letters are taken for each other in both cases. -/
structure Subject where
  text : Array Char
  ignoresCase : Bool

namespace Subject

/-- Whether the character at a place belongs to words. -/
def isWordAt (subject : Subject) (place : Nat) : Bool :=
  (subject.text[place]?).any fun c => c.isAlphanum || c == '_'

/-- Whether a word stands only on one side of a place, and on which. -/
def edgeAt (subject : Subject) (place : Nat) : Bool × Bool :=
  let before := place != 0 && subject.isWordAt (place - 1)
  let after := subject.isWordAt place
  (!before && after, before && !after)

/-- Whether a character is in one of some ranges. -/
def isIn (subject : Subject) (ranges : List (Char × Char)) (c : Char) : Bool :=
  let within (c : Char) : Bool := ranges.any fun (low, high) => low ≤ c && c ≤ high
  within c || subject.ignoresCase && (within c.toLower || within c.toUpper)

/-- The part of the text between two places. -/
def part (subject : Subject) (first last : Nat) : List Char :=
  (subject.text.extract first last).toList

end Subject

/-- Keeps the first of equal elements. -/
def thin (all : List Progress) : List Progress :=
  all.eraseDups

/-- Repeats a step as long as it leads on. What has been repeated more often stands in front. -/
def closure (step : List Progress → List Progress) : Nat → List Progress → List Progress
  | 0, now => now
  | n + 1, now =>
    let next := (step now).filter fun progress =>
      now.any fun old => old.place < progress.place
    if next.isEmpty then now else thin (closure step n next ++ now)

/-- Repeats a step a number of times. -/
def times (step : List Progress → List Progress) : Nat → List Progress → List Progress
  | 0, now => now
  | n + 1, now => times step n (step now)

/-- Repeats a step up to a number of times. -/
def upTo (step : List Progress → List Progress) : Nat → List Progress → List Progress
  | 0, now => now
  | n + 1, now =>
    let next := step now
    if next.isEmpty then now else thin (upTo step n next ++ now)

/-- The places to which an expression leads from given ones. -/
def follow (subject : Subject) : Expression → List Progress → List Progress
  | .empty, now => now
  | .anyOne, now =>
    now.filterMap fun progress =>
      if progress.place < subject.text.size then
        some { progress with place := progress.place + 1 }
      else none
  | .oneOf within ranges, now =>
    now.filterMap fun progress =>
      match subject.text[progress.place]? with
      | some c =>
        if subject.isIn ranges c == within then some { progress with place := progress.place + 1 }
        else none
      | none => none
  | .lineStart, now => now.filter fun progress => progress.place == 0
  | .lineEnd, now => now.filter fun progress => progress.place == subject.text.size
  | .wordStart, now => now.filter fun progress => (subject.edgeAt progress.place).1
  | .wordEnd, now => now.filter fun progress => (subject.edgeAt progress.place).2
  | .wordEdge isEdge, now =>
    now.filter fun progress =>
      let (starts, ends) := subject.edgeAt progress.place
      (starts || ends) == isEdge
  | .sequence first second, now => follow subject second (follow subject first now)
  | .choice first second, now => thin (follow subject first now ++ follow subject second now)
  | .repeated least most body, now =>
    let begun := times (follow subject body) least now
    match most with
    | none => closure (follow subject body) (subject.text.size + 1) begun
    | some most => upTo (follow subject body) (most - least) begun
  | .group number body, now =>
    now.flatMap fun start =>
      (follow subject body [start]).map fun progress =>
        { progress with
          groups := (number, start.place, progress.place) ::
            progress.groups.filter fun entry => entry.1 != number }
  | .again number, now =>
    now.filterMap fun progress =>
      match progress.group? number with
      | some (first, last) =>
        let taken := subject.part first last
        if subject.part progress.place (progress.place + taken.length) = taken then
          some { progress with place := progress.place + taken.length }
        else none
      | none => none

/-- The longest stretch from a place that an expression fits. -/
def longestAt (subject : Subject) (expression : Expression) (place : Nat) : Option Progress :=
  (follow subject expression [⟨place, []⟩]).foldl (fun best progress =>
    match best with
    | none => some progress
    | some old => if old.place < progress.place then some progress else best) none

/-- The first and longest stretch that an expression fits, no earlier than a place, with the place
that it begins at. -/
def find (subject : Subject) (expression : Expression) (place : Nat) :
    Nat → Option (Nat × Progress)
  | 0 => none
  | n + 1 =>
    match longestAt subject expression place with
    | some progress => some (place, progress)
    | none => find subject expression (place + 1) n

/-- The first stretch of a text from a place on that an expression fits. -/
def search (subject : Subject) (expression : Expression) (place : Nat) : Option (Nat × Progress) :=
  expression.find subject place (subject.text.size + 1 - place)

end Expression

end CrossGen.Shell
