import CrossGen.CommandLine.Level

/-!
# Misuse of the command line

What is wrong with a command line, with a hint and the usage where they help.
-/

namespace CrossGen.CommandLine

/-- A mistake in a command line. -/
inductive Mistake where
  | unknownArgument (arg : String)
  | unknownSubcommand (name : String)
  | unneededValue (value : String) (flag : Flag)
  | missingValue (flag : Flag)
  | repeated (flag : Flag)
deriving DecidableEq, Repr

def Mistake.text : Mistake → Styled
  | .unknownArgument arg =>
    Styled.plain "unexpected argument '" ++ Styled.invalid arg ++ Styled.plain "' found"
  | .unknownSubcommand name =>
    Styled.plain "unrecognized subcommand '" ++ Styled.invalid name ++ Styled.plain "'"
  | .unneededValue value flag =>
    Styled.plain "unexpected value '" ++ Styled.invalid value ++ Styled.plain "' for '" ++
      Styled.literal flag.label ++ Styled.plain "' found; no more were expected"
  | .missingValue flag =>
    Styled.plain "a value is required for '" ++ Styled.invalid flag.label ++
      Styled.plain "' but none was supplied"
  | .repeated flag =>
    Styled.plain "the argument '" ++ Styled.invalid flag.label ++
      Styled.plain "' cannot be used multiple times"

/-- A mistake with what can be said about it. -/
structure Misuse where
  mistake : Mistake
  tip : Option Styled
  usage : Option Styled
  offersHelp : Bool
deriving DecidableEq, Repr

def Misuse.message (misuse : Misuse) : Styled :=
  [⟨.alarm, "error:"⟩] ++ Styled.plain " " ++ misuse.mistake.text ++
    (misuse.tip.elim [] fun tip =>
      Styled.plain "\n\n  " ++ Styled.valid "tip:" ++ Styled.plain " " ++ tip) ++
    (misuse.usage.elim [] fun usage => Styled.plain "\n\n" ++ Level.usageHeading ++ usage) ++
    (if misuse.offersHelp then
      Styled.plain "\n\nFor more information, try '" ++ Styled.literal "--help" ++
        Styled.plain "'.\n"
    else Styled.plain "\n")

end CrossGen.CommandLine
