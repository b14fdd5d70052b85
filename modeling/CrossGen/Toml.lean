/-!
# TOML documents

Documents of plain texts, lists of texts and lists of tables. A text is written in the simplest of
the format's four quotations that needs no escape, and in one with escapes if none does.
-/

namespace CrossGen.Toml

/-- A text or a list of texts. -/
inductive Value where
  | single (text : String)
  | several (items : List String)

/-- Names with their values, in order. -/
abbrev Entries :=
  List (String × Value)

/-- A document: entries, and then lists of tables. -/
structure Document where
  entries : Entries
  tables : List (String × List Entries)

/-- The length of the longest run of `c` in a text, where `run` is the length of the run that
reaches up to here and `best` the longest one before. -/
def longestRun (c : Char) (run best : Nat) : List Char → Nat
  | [] => max run best
  | d :: cs => if d = c then longestRun c (run + 1) best cs else longestRun c 0 (max run best) cs

/-- Whether `c` may only be written by an escape: the control characters except tab and newline. -/
def needsEscape (c : Char) : Bool :=
  (c.val < 0x20 && c != '\t' && c != '\n') || c.val == 0x7F

/-- The ways to quote a text. -/
inductive Quotation where
  | basic
  | literal
  | basicLines
  | literalLines
deriving DecidableEq

/-- The quotation that a text is written in. -/
def Quotation.choose (cs : List Char) : Quotation :=
  let control := cs.any needsEscape
  let backslash := cs.contains '\\'
  let newline := cs.contains '\n'
  let quotes := longestRun '"' 0 0 cs
  let apostrophes := longestRun '\'' 0 0 cs
  if !control && !backslash && quotes == 0 && !newline then .basic
  else if !control && apostrophes == 0 && !newline then .literal
  else if !control && !backslash && quotes ≤ 2 then .basicLines
  else if !control && apostrophes ≤ 2 then .literalLines
  else if newline then .basicLines
  else .basic

/-- The four hexadecimal digits of a number, in upper case. -/
def fourDigits (n : Nat) : List Char :=
  [n / 4096 % 16, n / 256 % 16, n / 16 % 16, n % 16].map fun d =>
    if d < 10 then Char.ofNat (0x30 + d) else Char.ofNat (0x41 + d - 10)

/-- The characters of a basic string. Up to `spare` quotes in a row stand for themselves, `run` of
which have been written, and a newline stands for itself if `multiline`. -/
def basicText (multiline : Bool) (spare run : Nat) : List Char → List Char
  | [] => []
  | c :: cs =>
    if c = '"' then
      if run < spare then '"' :: basicText multiline spare (run + 1) cs
      else '\\' :: '"' :: basicText multiline spare 0 cs
    else
      let written :=
        if c.val = 0x08 then ['\\', 'b']
        else if c = '\t' then ['\\', 't']
        else if c = '\n' then if multiline then [c] else ['\\', 'n']
        else if c.val = 0x0C then ['\\', 'f']
        else if c = '\r' then ['\\', 'r']
        else if c = '\\' then ['\\', '\\']
        else if c.val < 0x20 || c.val = 0x7F then '\\' :: 'u' :: fourDigits c.toNat
        else [c]
      written ++ basicText multiline spare 0 cs

/-- A text between the marks of its quotation. A quotation over lines starts on a line of its own
if the text has a newline. -/
def quote (text : String) : String :=
  let cs := text.toList
  let start := if cs.contains '\n' then "\n" else ""
  match Quotation.choose cs with
  | .basic => "\"" ++ String.ofList (basicText false 0 0 cs) ++ "\""
  | .literal => "'" ++ text ++ "'"
  | .basicLines => "\"\"\"" ++ start ++ String.ofList (basicText true 2 0 cs) ++ "\"\"\""
  | .literalLines => "'''" ++ start ++ text ++ "'''"

/-- A value; a list of two or more texts has each of them on a line of its own. -/
def Value.render : Value → String
  | .single text => quote text
  | .several [] => "[]"
  | .several [item] => "[" ++ quote item ++ "]"
  | .several items =>
    "[" ++ String.join (items.map fun item => "\n    " ++ quote item ++ ",") ++ "\n]"

def renderEntries (entries : Entries) : String :=
  String.join (entries.map fun (name, value) => name ++ " = " ++ value.render ++ "\n")

/-- The text of a document. A list without tables is written as an empty array before all tables,
and each table starts after a blank line. -/
def Document.render (doc : Document) : String :=
  let absent := doc.tables.filter fun (_, tables) => tables.isEmpty
  renderEntries doc.entries ++
    String.join (absent.map fun (name, _) => name ++ " = []\n") ++
    String.join (doc.tables.map fun (name, tables) =>
      String.join (tables.map fun entries => "\n[[" ++ name ++ "]]\n" ++ renderEntries entries))

end CrossGen.Toml
