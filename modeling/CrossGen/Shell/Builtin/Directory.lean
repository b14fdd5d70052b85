import CrossGen.Shell.Builtin.Printing

/-!
# The directory of a shell

A shell remembers the path by which it came to its directory, so that the way back over a link leads
to where it came from.
-/

namespace CrossGen.Shell

/-- The path that leads on from `place`, in which `..` takes a name away. -/
def Session.lead (place target : String) : String :=
  let names := if target.startsWith "/" then [] else (Path.mk place).names
  let names := (Path.mk target).names.foldl (fun names name =>
    if name == "." then names else if name == ".." then names.dropLast else names ++ [name]) names
  (Path.ofComponents true names).text

/-- Lets a shell be in another directory, of which its variables tell. -/
def enterDirectory (loc : Location) (place : String) : Run Unit := do
  let export' (name value : String) : Run Unit := do
    setVariable name value
    Run.update fun session =>
      match session.held? name with
      | some v => session.setVariable name { v with exported := true }
      | none => session
  export' "OLDPWD" (← Run.session).place
  Run.update fun session => { session with directory := loc, place := place }
  export' "PWD" place

/-- Changes the directory. A dash stands for the one before. -/
def changeDirectory : Builtin := fun args => do
  let (options, args) ← takeOptions ['L', 'P'] [] args
  let session ← Run.session
  let (target, isShown) :=
    match args with
    | [] => ((session.value? "HOME").getD "", false)
    | "-" :: _ => ((session.value? "OLDPWD").getD "", true)
    | target :: _ => (target, false)
  let target := if target.isEmpty then session.place else target
  let isPhysical := options.getLast? == some 'P'
  let place := Session.lead session.place target
  let files := (← Run.world).files
  let enter? (way : String) : Option (Location × String) :=
    match files.locate session.directory (hostPath way) with
    | .ok loc =>
      if files.node? loc == some .directory then
        some (loc, if isPhysical then shellPath loc else place)
      else none
    | .error _ => none
  let ways := match session.value? "CDPATH" with
    | some path =>
      if target.startsWith "/" || target.startsWith "." then [target]
      else
        (Text.fields ':' path).map fun (dir : String) =>
          if dir.isEmpty then target else dir ++ "/" ++ target
    | none => [target]
  match ways.findSome? fun way => enter? (if isPhysical then way else
      Session.lead session.place way) with
  | some (loc, place) =>
    enterDirectory loc place
    if isShown then say (place ++ "\n")
    return 0
  | none => failWith ("can't cd to " ++ target)

def printDirectory : Builtin := fun args => do
  let (options, _) ← takeOptions ['L', 'P'] [] args
  let session ← Run.session
  say ((if options.getLast? == some 'P' then shellPath session.directory else session.place) ++ "\n")
  return 0

end CrossGen.Shell
