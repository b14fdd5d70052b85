import CrossGen.Shell.Format
import CrossGen.Shell.Message
import CrossGen.Text.Fields

/-!
# Utilities

A utility is a program of the machine that is not a script. It gets its arguments, reads and writes
through descriptors, and answers its exit status.
-/

namespace CrossGen.Shell

/-- A utility: what it does with its arguments. -/
abbrev Utility :=
  List String → Run Nat

/-- Writes a message of a utility, which begins with the name that it was called by. -/
def report (text : String) : Run Unit := do
  warn ((← Run.session).name ++ ": " ++ text ++ "\n")

/-- Writes a message of a utility and where help is to be found. -/
def reportMisuse (text : String) : Run Unit := do
  let name := (← Run.session).name
  report text
  warn ("Try '" ++ name ++ " --help' for more information.\n")

/-- The characters that mean nothing to a shell. -/
def isHarmless (c : Char) : Bool :=
  c.isAlphanum || "%+,-./:]_@".toList.contains c

/-- How a character is written that cannot be shown. -/
def hiddenForm (c : Char) : String :=
  match c with
  | '\x07' => "\\a"
  | '\x08' => "\\b"
  | '\x0c' => "\\f"
  | '\n' => "\\n"
  | '\r' => "\\r"
  | '\t' => "\\t"
  | '\x0b' => "\\v"
  | _ =>
    let digits := String.ofList (Nat.toDigits 8 c.toNat)
    "\\" ++ "".pushn '0' (3 - digits.length) ++ digits

/-- The inside of a text between single quotes. Characters that cannot be shown stand between quotes
of their own. -/
def quotedInside (isHidden : Bool) : List Char → String
  | [] => ""
  | c :: cs =>
    if c.toNat < 0x20 || 0x7E < c.toNat then
      (if isHidden then "" else "'$'") ++ hiddenForm c ++ quotedInside true cs
    else
      (if isHidden then "''" else "") ++
        (if c = '\'' then "'\\''" else String.singleton c) ++ quotedInside false cs

/-- A text as messages quote it. -/
def inQuotes (text : String) : String :=
  let cs := text.toList
  if cs.contains '\'' && cs.all fun c => isHarmless c || c = ' ' || c = '\'' then "\"" ++ text ++ "\""
  else "'" ++ quotedInside false cs ++ "'"

/-- A text as messages about misuse quote it. -/
def inMarks (text : String) : String :=
  let form (c : Char) : String :=
    if c = '\'' || c = '\\' then "\\" ++ String.singleton c
    else if c.toNat < 0x20 || 0x7E < c.toNat then hiddenForm c
    else String.singleton c
  "'" ++ String.join (text.toList.map form) ++ "'"

/-- The name of a file as messages show it, which is quoted if it has to be. -/
def shown (name : String) : String :=
  let isPlain (c : Char) : Bool :=
    (isHarmless c && c != ':') || (c = '\x7b' || c = '\x7d') && 1 < name.length
  let isPlainLater (c : Char) : Bool := isPlain c || c = '#' || c = '~'
  match name.toList with
  | [] => "''"
  | c :: cs => if isPlain c && cs.all isPlainLater then name else inQuotes name

/-- A letter of an option with its argument, if it takes one. -/
structure Choice where
  letter : Char
  argument : String
deriving DecidableEq

/-- What the arguments of a utility come to: the options with their arguments, and the operands; or
the option that is not known or that lacks its argument. -/
inductive Arguments where
  | known (choices : List Choice) (operands : List String)
  | unknown (letter : Char)
  | unknownName (text : String)
  | incomplete (letter : Char)

namespace Arguments

/-- The options with their arguments that a group of letters stands for, up to one whose argument is
still missing. -/
def readLetters (alone withArgument : List Char) :
    List Char → Except Char (List Choice × Option Char)
  | [] => .ok ([], none)
  | c :: cs =>
    if alone.contains c then
      (readLetters alone withArgument cs).map fun (choices, missing) => (⟨c, ""⟩ :: choices, missing)
    else if withArgument.contains c then
      .ok (if cs.isEmpty then ([], some c) else ([⟨c, String.ofList cs⟩], none))
    else .error c

/-- A long option with the value behind its equals sign, which may be missing. -/
def cutName (arg : String) : String × String :=
  (Text.cutAt? '=' arg).getD (arg, "")

/-- Reads the arguments of a utility, the first of which belongs to an option if one is waiting.
Where they may be mixed, options stand behind operands too. Two dashes end them, and long names stand
for letters. -/
def read (mixed : Bool) (alone withArgument : List Char) (names : List (String × Char))
    (choices : List Choice) (operands : List String) : Option Char → List String → Arguments
  | none, [] => .known choices.reverse operands.reverse
  | some letter, [] => .incomplete letter
  | some letter, value :: rest =>
    read mixed alone withArgument names (⟨letter, value⟩ :: choices) operands none rest
  | none, arg :: rest =>
    if arg = "--" then .known choices.reverse (operands.reverse ++ rest)
    else if arg.startsWith "--" then
      let (name, value) := cutName arg
      match names.find? fun entry => entry.1 == name with
      | some (_, letter) =>
        read mixed alone withArgument names (⟨letter, value⟩ :: choices) operands none rest
      | none => .unknownName arg
    else
      match arg.toList with
      | '-' :: c :: cs =>
        match readLetters alone withArgument (c :: cs) with
        | .error letter => .unknown letter
        | .ok (found, waiting) =>
          read mixed alone withArgument names (found.reverse ++ choices) operands waiting rest
      | _ =>
        if mixed then read mixed alone withArgument names choices (arg :: operands) none rest
        else .known choices.reverse (operands.reverse ++ arg :: rest)

end Arguments

/-- The options of a utility. -/
structure Choices where
  list : List Choice

namespace Choices

def has (choices : Choices) (letter : Char) : Bool :=
  choices.list.any fun choice => choice.letter == letter

/-- The argument of an option, which is that of its last use. -/
def argument? (choices : Choices) (letter : Char) : Option String :=
  (choices.list.reverse.find? fun choice => choice.letter == letter).map Choice.argument

end Choices

/-- Carries out a utility with arguments that have options, which may be mixed with operands. -/
def withOptionsOf (mixed : Bool) (alone withArgument : String) (names : List (String × Char))
    (act : Choices → List String → Run Nat) : Utility := fun args => do
  match Arguments.read mixed alone.toList withArgument.toList names [] [] none args with
  | .known choices operands => act ⟨choices⟩ operands
  | .unknown letter =>
    reportMisuse ("invalid option -- " ++ inQuotes (String.singleton letter))
    return 1
  | .unknownName text =>
    reportMisuse ("unrecognized option " ++ inQuotes text)
    return 1
  | .incomplete letter =>
    reportMisuse ("option requires an argument -- " ++ inQuotes (String.singleton letter))
    return 1

/-- Carries out a utility with arguments that have options, which may stand behind operands. Some
options take an argument, and long names stand for letters. -/
def withOptions (alone withArgument : String) (names : List (String × Char))
    (act : Choices → List String → Run Nat) : Utility :=
  withOptionsOf true alone withArgument names act

/-- Carries out a utility with arguments whose options stand in front of its operands. -/
def withFirstOptions (alone withArgument : String) (names : List (String × Char))
    (act : Choices → List String → Run Nat) : Utility :=
  withOptionsOf false alone withArgument names act

/-- The operands of a utility that reads files, or its input if there are none. -/
def orInput (operands : List String) : List String :=
  if operands.isEmpty then ["-"] else operands

/-- What a utility that reads files finds in one of them. A dash stands for its input. -/
def contentOf (name : String) : Run (Except IoError String) := do
  if name = "-" then readAll 0
  else
    match descriptorOf? name with
    | some descriptor => readAll descriptor
    | none =>
      let session ← Run.session
      match (← Run.world).files.read session.directory (hostPath name) with
      | .ok content => return .ok (Text.octets content)
      | .error e => return .error e

/-- Carries out an action for each operand, and answers the greatest of the statuses. -/
def forOperands (act : String → Run Nat) : List String → Run Nat
  | [] => return 0
  | operand :: operands => do
    let status ← act operand
    return max status (← forOperands act operands)

/-- The lines of a text without their ends. -/
def linesOf (text : String) : List String :=
  let rec go (line : List Char) : List Char → List String
    | [] => if line.isEmpty then [] else [String.ofList line.reverse]
    | c :: cs => if c = '\n' then String.ofList line.reverse :: go [] cs else go (c :: line) cs
  go [] text.toList

/-- A text of lines, all of which end. -/
def unlines (lines : List String) : String :=
  String.join (lines.map (· ++ "\n"))

def changeFiles (change : FileSystem → Except IoError FileSystem) : Run (Except IoError Unit) := do
  match change (← Run.world).files with
  | .ok files =>
    Run.change fun world => { world with files := files }
    return .ok ()
  | .error e => return .error e

end CrossGen.Shell
