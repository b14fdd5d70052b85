import CrossGen.CommandLine.Misuse
import CrossGen.Program
import CrossGen.Text.Likeness

/-!
# Reading the command line

The arguments are read from left to right. A flag that asks for help or the version takes effect
where it stands, and a value that is missing is noticed where the next flag takes effect or at the
end.
-/

namespace CrossGen.CommandLine

/-- What a command line asks for. -/
inductive Request where
  | order (order : Program.Order)
  | help (text : Styled)
  | version
deriving DecidableEq, Repr

/-- What has been read of a level: the flags with their values in order, and the flag that was read
last if it has not taken effect yet. -/
structure Taken where
  values : List (Flag × String)
  pending : Option (Flag × Option String)
deriving DecidableEq, Repr

namespace Taken

/-- Stores the value of a flag, which has none yet. -/
def store (taken : Taken) (level : Level) (flag : Flag) (value : String) :
    Except Misuse Taken :=
  if taken.values.any fun entry => entry.1 == flag then
    .error ⟨.repeated flag, none, some level.usage, true⟩
  else .ok { taken with values := taken.values ++ [(flag, value)] }

/-- Lets the pending flag take effect. -/
def settle (taken : Taken) (level : Level) : Except Misuse Taken :=
  match taken.pending with
  | none => .ok taken
  | some (flag, none) => .error ⟨.missingValue flag, none, none, true⟩
  | some (flag, some value) => Taken.store { taken with pending := none } level flag value

/-- The flags that count as used when something else is wrong. A flag that is repeated does not. -/
def used (taken : Taken) : List Flag :=
  let stored := taken.values.map Prod.fst
  match taken.pending with
  | some (flag, some _) => if stored.contains flag then stored.erase flag else stored ++ [flag]
  | _ => stored

end Taken

/-- A hint at one flag that may have been meant: one of this level, or of the subcommand named
first in the rest of the arguments. -/
def flagTip (level : Level) (name : String) (rest : List String) :
    Option (Styled × Option Flag) :=
  let likeliest (flags : List Flag) : Option String :=
    (Text.lookalikes name (flags.map Flag.long)).getLast?
  match likeliest level.flags with
  | some long =>
    some (Styled.plain "a similar argument exists: '" ++ Styled.valid ("--" ++ long) ++
        Styled.plain "'",
      level.flags.find? fun flag => flag.long == long)
  | none =>
    if level.subcommands.isEmpty then none
    else
      rest.findSome? fun word => do
        let long ← likeliest (← leaf? word).flags
        return (Styled.plain "'" ++ Styled.valid (word ++ " --" ++ long) ++
          Styled.plain "' exists", none)

/-- The misuse of a flag that the level does not have. -/
def unknownFlag (level : Level) (taken : Taken) (name : String) (rest : List String) : Misuse :=
  let used := taken.used
  let mistake := Mistake.unknownArgument ("--" ++ name)
  match flagTip level name rest with
  | none => ⟨mistake, none, some (level.usageWith used), true⟩
  | some (tip, flag) =>
    let meant := used ++ (flag.toList.filter (!used.contains ·))
    ⟨mistake, some tip, some (level.usageWith meant), true⟩

/-- The hint at subcommands that may have been meant. -/
def subcommandTip (names : List String) : Option Styled :=
  let cited := names.map fun name =>
    Styled.plain "'" ++ Styled.valid name ++ Styled.plain "'"
  match cited with
  | [] => none
  | [name] => some (Styled.plain "a similar subcommand exists: " ++ name)
  | cited =>
    some (Styled.plain "some similar subcommands exist: " ++
      (cited.intersperse (Styled.plain ", ")).flatten)

/-- The misuse of a word that the level does not expect. -/
def unknownWord (level : Level) (word : String) (afterDashes : Bool) : Misuse :=
  let names := level.subcommands.map Prod.fst
  let usage := some level.usage
  if afterDashes && names.contains word then
    ⟨.unknownArgument word,
      some (Styled.plain "subcommand '" ++ Styled.valid word ++
        Styled.plain "' exists; to use it, remove the '" ++ Styled.invalid "--" ++
        Styled.plain "' before it"),
      usage, true⟩
  else if names.isEmpty then ⟨.unknownArgument word, none, usage, true⟩
  else ⟨.unknownSubcommand word, subcommandTip (Text.lookalikes word names), usage, true⟩

/-- How the arguments of a level end. -/
inductive LevelEnd where
  | finished (values : List (Flag × String))
  | subcommand (name : String) (rest : List String)
  | help
  | version
deriving DecidableEq, Repr

/-- How a level ends when a flag without a value takes effect. -/
def flagEnd (flag : Flag) : LevelEnd :=
  if flag == versionFlag then .version else .help

def readLevel (level : Level) (taken : Taken) (afterDashes : Bool) :
    List String → Except Misuse LevelEnd
  | [] => do
    let taken ← taken.settle level
    return .finished taken.values
  | arg :: rest =>
    if afterDashes then .error (unknownWord level arg true)
    else if level.subcommands.any fun entry => entry.1 == arg then
      .ok (.subcommand arg rest)
    else
      match arg.toList with
      | '-' :: '-' :: [] => readLevel level taken true rest
      | '-' :: '-' :: cs =>
        let name := String.ofList (cs.takeWhile (· != '='))
        let value := (cs.dropWhile (· != '=')).tail?.map String.ofList
        match level.flags.find? fun flag => flag.long == name with
        | none => .error (unknownFlag level taken name rest)
        | some flag =>
          match flag.value, value with
          | none, some value =>
            .error
              ⟨.unneededValue value flag, none,
                some (level.usageAlone flag (taken.values.map Prod.fst)), true⟩
          | none, none => do
            let _ ← taken.settle level
            return flagEnd flag
          | some _, none => do
            let taken ← taken.settle level
            readLevel level { taken with pending := some (flag, none) } false rest
          | some _, some value => do
            let taken ← taken.settle level
            let taken ← Taken.store { taken with pending := none } level flag value
            readLevel level taken false rest
      | '-' :: c :: _ =>
        match level.flags.find? fun flag => flag.short == some c with
        | none =>
          .error
            ⟨.unknownArgument ("-" ++ String.singleton c), none, some level.usage, true⟩
        | some flag => do
          let _ ← taken.settle level
          return flagEnd flag
      | _ =>
        match taken.pending with
        | some (flag, none) =>
          readLevel level { taken with pending := some (flag, some arg) } false rest
        | _ => .error (unknownWord level arg false)

/-- The help that the words after the help subcommand ask for. -/
def readHelp (level : Level) : List String → Except Misuse Styled
  | [] => .ok level.help
  | word :: rest =>
    if level == rootLevel && word = "help" then
      match rest with
      | [] => .ok helpHelp
      | other :: _ =>
        .error ⟨.unknownSubcommand other, none, some helpUsage, false⟩
    else
      match if level == rootLevel then leaf? word else none with
      | some inner => readHelp inner rest
      | none => .error ⟨.unknownSubcommand word, none, some level.usage, true⟩

/-- What is asked for by a subcommand with the given values of its flags. -/
def orderOf (name : String) (values : List (Flag × String)) : Program.Order :=
  if name = "targets" then
    .targets (((values.find? fun entry => entry.1 == formatFlag).map Prod.snd).getD "human")
  else if name = "doctor" then .doctor
  else .generate

def readSubcommand (name : String) (args : List String) : Except Misuse Request :=
  match leaf? name with
  | none => (readHelp rootLevel args).map .help
  | some level => do
    match ← readLevel level ⟨[], none⟩ false args with
    | .finished values => return .order (orderOf name values)
    | .help => return .help level.help
    | .version => return .version
    | .subcommand .. => return .help level.help

/-- Reads a command line. Without a subcommand, sources are generated. -/
def read (args : List String) : Except Misuse Request := do
  match ← readLevel rootLevel ⟨[], none⟩ false args with
  | .finished _ => return .order .generate
  | .help => return .help rootLevel.help
  | .version => return .version
  | .subcommand name rest => readSubcommand name rest

end CrossGen.CommandLine
