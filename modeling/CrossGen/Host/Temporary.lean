import CrossGen.Host.Basic
import CrossGen.Text.Quoted

/-!
# Temporary directories

Directories under names that are not in use yet. They are never removed.
-/

namespace CrossGen.Host

def sixDigits (n : Nat) : String :=
  let digits := toString (n % 1000000)
  "".pushn '0' (6 - digits.length) ++ digits

/-- Where temporary directories go unless another place is asked for. -/
def temporaryParent (host : Host) : Path :=
  ⟨(host.environment.lookup? "TMPDIR").getD "/tmp"⟩

/-- The first of the names `base000000`, `base000001`, … in the directory `parent` that leads
nowhere yet, or the first of all if none of them does. -/
def unusedPath (host : Host) (parent : Path) (base : String) : Path :=
  let candidates := (List.range (host.files.entries.length + 1)).map fun n =>
    parent / (base ++ sixDigits n)
  let unused := candidates.find? fun p =>
    match host.files.place host.directory p with
    | .ok (.vacancy ..) => true
    | _ => false
  unused.getD (parent / (base ++ sixDigits 0))

/-- Makes a directory in `parent` under a name that starts with `base`, and answers its absolute
path. -/
def makeTemporary (parent : Path) (base : String) : Act IoError Path := do
  let host ← get
  let parent := host.directory.path.join parent
  let p := host.unusedPath parent base
  failAs (fun e => .other (e.message ++ " at path " ++ Text.quoted p.text)) (makeDirectory p)
  return p

end CrossGen.Host
