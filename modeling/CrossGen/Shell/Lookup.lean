import CrossGen.Shell.Image
import CrossGen.Shell.Message
import CrossGen.Shell.Reader.Command

/-!
# What a command is

The name of a command stands for a function, for a command of the shell itself, or for a file on the
search path. A name with a separator is the path of a file.
-/

namespace CrossGen.Shell

/-- The commands of the shell itself that are not special. -/
def plainNames : List String :=
  ["[", "alias", "bg", "cd", "chdir", "command", "echo", "false", "fg", "getopts", "hash", "jobs",
    "kill", "printf", "pwd", "read", "test", "true", "type", "ulimit", "umask", "unalias", "wait"]

/-- The directories that a shell looks for programs in where they are not its user's choice. -/
def defaultPath : String :=
  "/usr/local/sbin:/usr/local/bin:/usr/sbin:/usr/bin:/sbin:/bin"

/-- What the name of a command stands for. -/
inductive Origin where
  | function (body : Script)
  | builtin
  | file (path : String)
  | missing (cause : IoError)

def Session.function? (session : Session) (name : String) : Option Script :=
  (session.functions.find? fun entry => entry.1 == name).map Prod.snd

/-- The path of the program of a name in the directories of a search path. -/
def findProgram (files : FileSystem) (session : Session) (path name : String) :
    Except IoError String :=
  (findFile files session.directory (Text.ofOctets name) .notFound
    (searchPath (some (Text.ofOctets path)))).map fun p => Text.toOctets p.text

/-- The search path of a shell. -/
def Session.searchText (session : Session) : String :=
  (session.value? "PATH").getD ""

/-- What the name of a command stands for. Functions may be passed over, and the search path may be
another one than that of the shell. -/
def originOf (files : FileSystem) (session : Session) (functions : Bool) (path name : String) :
    Origin :=
  if name.toList.contains '/' then .file name
  else
    match if functions then session.function? name else none with
    | some body => .function body
    | none =>
      if specialNames.contains name || plainNames.contains name then .builtin
      else
        match findProgram files session path name with
        | .ok path => .file path
        | .error e => .missing e

/-- Says what names stand for, in words or as they can be called, and answers whether all of them
stand for something. -/
def describe (inWords : Bool) (path name : String) : Run Nat := do
  let session ← Run.session
  let files := (← Run.world).files
  let tell (words text : String) : Run Nat := do
    say ((if inWords then name ++ words else text) ++ "\n")
    return 0
  let tellMissing : Run Nat := do
    if inWords then say (name ++ ": not found\n")
    return 127
  if keywords.contains name then tell " is a shell keyword" name
  else
    match originOf files session true path name with
    | .function _ => tell " is a shell function" name
    | .builtin =>
      tell (if specialNames.contains name then " is a special shell builtin"
        else " is a shell builtin") name
    | .missing _ => tellMissing
    | .file path =>
      if name.toList.contains '/' && !(files.locate session.directory (hostPath name)).isOk then
        tellMissing
      else if inWords && session.known.contains name && path != name then
        tell (" is a tracked alias for " ++ path) path
      else tell (" is " ++ path) path

/-- What the arguments of `command` ask for: that a command is carried out, perhaps from the default
search path, or that nothing but the shell itself acts. -/
def commandBehind? (standard : Bool) : List String → Option (Bool × List String)
  | [] => none
  | arg :: args =>
    match arg.toList with
    | ['-', '-'] => if args.isEmpty then none else some (standard, args)
    | '-' :: c :: cs =>
      if (c :: cs).all (· == 'p') then commandBehind? true args else none
    | _ => some (standard, arg :: args)

end CrossGen.Shell
