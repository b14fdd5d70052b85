import CrossGen.Shell.Builtin.Scripts

/-!
# Starting a shell

A shell gets its variables from what it is started with, reads its options, and then carries out the
text, the file or the input that holds its script.
-/

namespace CrossGen.Shell

/-- The variables that a shell knows before it looks at what it is started with. -/
def firstVariables : List (String × Option String) :=
  [("IFS", some " \t\n"), ("MAIL", none), ("MAILPATH", none), ("PATH", some defaultPath),
    ("PS1", some "# "), ("PS2", some "> "), ("PS4", some "+ "), ("OPTIND", some "1")]

/-- The state in which a shell begins. Only what can be a variable is taken over. -/
def Session.forShell (session : Session) : Session :=
  let own : Session :=
    { session with
      bindings := firstVariables.map fun (name, value) => (name, ⟨value, false, false⟩) }
  let full := (session.bindings.filter fun entry => Reader.isName entry.1).foldl
    (fun session (name, v) => session.setVariable name v) own
  ((full.assign "IFS" " \t\n").assign "OPTIND" "1").assign "PPID" (toString (session.number - 1))

/-- Lets a shell tell by which path it is in its directory. A path that it was told is kept if it
leads there. -/
def tellDirectory : Run Unit := do
  let session ← Run.session
  let files := (← Run.world).files
  let isRight (text : String) : Bool :=
    text.startsWith "/" &&
      (files.locate .root (hostPath text)).toOption == some session.directory
  let place := match (session.value? "PWD").filter isRight with
    | some text => text
    | none => shellPath session.directory
  Run.update fun session =>
    { session.setVariable "PWD" ⟨some place, true, false⟩ with place := place }

/-- Carries out the script that the input holds. -/
def runInput (go : Worker) : Run Unit := do
  let text := ((← readAll 0).toOption).getD ""
  go (.lines (.ofText text 1) true .plain)

def runShell (go : Worker) (called : String) (args : List String) : Run Unit := do
  Run.update Session.forShell
  tellDirectory
  endShell go do
    let (start, args, _) ← readOptions true ⟨false⟩ (args.length + 1) args
    let enter (name : String) (args : List String) : Run Unit :=
      Run.update fun session => { session with name := name, args := args }
    let isInput := (← Run.session).has 's'
    if start.inline then
      match args with
      | [] => failWith "-c requires an argument"
      | text :: rest =>
        if !rest.isEmpty then enter (rest.headD called) rest.tail
        go (.lines (.ofText text 1) false .plain)
        if isInput then runInput go
    else
      match args with
      | [] => runInput go
      | file :: rest =>
        if isInput then
          enter called args
          runInput go
        else
          let text ← readScript file
          enter file rest
          go (.lines (.ofText text 1) true .plain)

end CrossGen.Shell
