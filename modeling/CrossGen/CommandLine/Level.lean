import CrossGen.CommandLine.Styled

/-!
# Levels of a command line

The command line of the program has a level for the program itself and one for each of its
subcommands. A level knows its flags, its usage and its help.
-/

namespace CrossGen.CommandLine

/-- A flag, which may take a value. -/
structure Flag where
  long : String
  short : Option Char
  value : Option String
  about : String
deriving DecidableEq, Repr

namespace Flag

/-- The name of the value of a flag, behind the flag. -/
def valueLabel (flag : Flag) : String :=
  flag.value.elim "" fun value => " <" ++ value ++ ">"

/-- A flag as it is named in messages. -/
def label (flag : Flag) : String :=
  "--" ++ flag.long ++ flag.valueLabel

/-- A flag as it stands in a usage. -/
def styled (flag : Flag) : Styled :=
  Styled.literal ("--" ++ flag.long) ++ Styled.plain flag.valueLabel

/-- The left column of a flag in the help. -/
def column (flag : Flag) : Styled :=
  match flag.short with
  | none => Styled.plain "    " ++ flag.styled
  | some c => Styled.literal ("-" ++ String.singleton c) ++ Styled.plain ", " ++ flag.styled

end Flag

def helpFlag : Flag := ⟨"help", some 'h', none, "Print help"⟩

def versionFlag : Flag := ⟨"version", some 'V', none, "Print version"⟩

def formatFlag : Flag :=
  ⟨"format", none, some "FORMAT", "Output format (human, json, toml) [default: human]"⟩

/-- A level of the command line. -/
structure Level where
  path : String
  about : String
  flags : List Flag
  subcommands : List (String × String)
  footer : String
deriving DecidableEq, Repr

namespace Level

/-- Whether a level has flags besides those that every program has. -/
def hasOptions (level : Level) : Bool :=
  level.flags.any fun flag => flag != helpFlag && flag != versionFlag

/-- How a level is used, in general. -/
def usage (level : Level) : Styled :=
  Styled.literal level.path ++
    Styled.plain ((if level.hasOptions then " [OPTIONS]" else "") ++
      (if level.subcommands.isEmpty then "" else " [COMMAND]"))

/-- How a level is used together with the given flags, if there are any. -/
def usageWith (level : Level) (used : List Flag) : Styled :=
  if used.isEmpty then level.usage
  else Styled.literal level.path ++ used.flatMap fun flag => Styled.plain " " ++ flag.styled

/-- How a flag that stands alone is used at a level, behind flags that were given with it. -/
def usageAlone (level : Level) (flag : Flag) (given : List Flag) : Styled :=
  level.usageWith [flag] ++
    given.flatMap fun other => Styled.plain (" <" ++ other.label ++ ">")

def usageHeading : Styled :=
  Styled.heading "Usage:" ++ Styled.plain " "

/-- Lines of two columns. -/
def columns (rows : List (Styled × String)) : Styled :=
  let width := (rows.map fun row => row.1.length).foldl max 0
  rows.flatMap fun (left, right) =>
    Styled.plain "  " ++ left ++
      Styled.plain ("".pushn ' ' (width - left.length) ++ "  " ++ right ++ "\n")

def help (level : Level) : Styled :=
  Styled.plain (level.about ++ "\n\n") ++ usageHeading ++ level.usage ++ Styled.plain "\n\n" ++
    (if level.subcommands.isEmpty then []
      else
        Styled.heading "Commands:" ++ Styled.plain "\n" ++
          columns (level.subcommands.map fun (name, about) => (Styled.literal name, about)) ++
          Styled.plain "\n") ++
    Styled.heading "Options:" ++ Styled.plain "\n" ++
    columns (level.flags.map fun flag => (flag.column, flag.about)) ++
    (if level.footer.isEmpty then [] else Styled.plain ("\n" ++ level.footer ++ "\n"))

end Level

def environmentHelp : String :=
  "Environment:\n" ++
    "  TARGET_GOOS, GOOS / TARGET_GOARCH, GOARCH   single target (default: host)\n" ++
    "  ZSTD_GEN_TARGETS, ZSTD_GEN_CCS              legacy ';'-separated target matrix\n" ++
    "  ZSTD_GEN_MODE                               matrix | single\n" ++
    "  ZSTD_GEN_CC                                 CC for the single target\n" ++
    "  ZSTD_GEN_OUT_DIR                            output directory (default: .)\n" ++
    "  ZSTD_GEN_PATCH                              compatibility patch\n" ++
    "  ZSTD_GEN_REPO, ZSTD_GEN_REV                 upstream pin\n" ++
    "  ZSTD_GEN_COMBINER                           script | native\n" ++
    "  ZSTD_GEN_TRANSPILER                         transpiler executable (default: ccgo)\n" ++
    "  ZSTD_GEN_LOG                                log filter (default: info)"

def programName : String := "zstdgen"

def generateAbout : String := "Fetch, patch, combine, and transpile (the default)"

def targetsAbout : String := "Show the resolved targets and their transpiler flags"

def doctorAbout : String := "Check that the external tools are available"

def helpAbout : String := "Print this message or the help of the given subcommand(s)"

/-- The level of the program itself. -/
def rootLevel : Level :=
  { path := programName
    about := "Generate zstd Go sources for a matrix of targets"
    flags := [helpFlag, versionFlag]
    subcommands :=
      [("generate", generateAbout), ("targets", targetsAbout), ("doctor", doctorAbout),
        ("help", helpAbout)]
    footer := environmentHelp }

/-- The level of a subcommand without subcommands of its own. -/
def leaf (name about : String) (options : List Flag) : Level :=
  ⟨programName ++ " " ++ name, about, options ++ [helpFlag], [], ""⟩

/-- The levels of the subcommands by name. -/
def leaves : List (String × Level) :=
  [("generate", leaf "generate" generateAbout []),
    ("targets", leaf "targets" targetsAbout [formatFlag]),
    ("doctor", leaf "doctor" doctorAbout [])]

def leaf? (name : String) : Option Level :=
  (leaves.find? fun entry => entry.1 == name).map Prod.snd

def helpUsage : Styled :=
  Styled.literal (programName ++ " help") ++ Styled.plain " [COMMAND]..."

def helpHelp : Styled :=
  Styled.plain (helpAbout ++ "\n\n") ++ Level.usageHeading ++ helpUsage ++
    Styled.plain "\n\n" ++ Styled.heading "Arguments:" ++
    Styled.plain "\n  [COMMAND]...  Print help for the subcommand(s)\n"

end CrossGen.CommandLine
