/-!
# Syntax of shell scripts

Words and commands. A word is made of parts, of which those between quotes are never split. A part
may stand for what a script prints, so that words and scripts contain each other.
-/

namespace CrossGen.Shell

/-- How the value of a parameter is used. Flags say whether an empty value counts as none, or which
part of the value is cut off. A use that cannot be told is only refused when it is made. -/
inductive Use where
  | value
  | otherwise (orEmpty : Bool)
  | instead (orEmpty : Bool)
  | assigned (orEmpty : Bool)
  | demanded (orEmpty : Bool)
  | trimmed (atEnd longest : Bool)
  | length
  | unclear
deriving DecidableEq, Repr

/-- What is done to a descriptor. A document is a part of the script that is read as a file. -/
inductive RedirectionKind where
  | read
  | write
  | overwrite
  | append
  | update
  | duplicate
  | document
deriving DecidableEq, Repr

mutual

/-- A part of a word. -/
inductive Part where
  | literal (text : String) (quoted : Bool)
  | parameter (name : String) (use : Use) (word : List Part) (quoted : Bool)
  | arithmetic (word : List Part) (quoted : Bool)
  | output (script : Script) (quoted : Bool)

/-- A redirection of a descriptor. -/
inductive Redirection where
  | mk (descriptor : Nat) (kind : RedirectionKind) (target : List Part)

/-- A command. Lines are those that messages name. -/
inductive Script where
  | simple (line : Nat) (assignments : List (String × List Part)) (words : List (List Part))
      (redirections : List Redirection)
  | block (commands : List Script)
  | both (first second : Script)
  | either (first second : Script)
  | negated (body : Script)
  | piped (commands : List Script)
  | branch (test yes no : Script)
  | loop (whenTrue : Bool) (test body : Script)
  | each (line : Nat) (name : String) (words : Option (List (List Part))) (body : Script)
  | choice (line : Nat) (word : List Part) (clauses : List (List (List Part) × Script))
  | subshell (line : Nat) (body : Script) (redirections : List Redirection)
  | background (line : Nat) (body : Script)
  | redirected (line : Nat) (body : Script) (redirections : List Redirection)
  | definition (name : String) (body : Script)

end

/-- A word: its parts in order. -/
abbrev Word :=
  List Part

/-- A script that does nothing. -/
def Script.empty : Script :=
  .block []

instance : Inhabited Script := ⟨.empty⟩

/-- The text of a word that has nothing quoted and nothing to be replaced. -/
def plainText? : Word → Option String
  | [.literal text false] => some text
  | _ => none

end CrossGen.Shell
