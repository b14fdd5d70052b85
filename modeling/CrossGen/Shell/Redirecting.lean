import CrossGen.Shell.Expansion
import CrossGen.Shell.Job

/-!
# Redirecting

Redirections let descriptors lead elsewhere for as long as a command is carried out.
-/

namespace CrossGen.Shell

def descriptorIn : Redirection → Nat
  | .mk descriptor .. => descriptor

/-- Carries out an action after which the descriptors of redirections lead where they did before. -/
def withDescriptors {α : Type} (redirections : List Redirection) (act : Run α) : Run α := do
  let before ← Run.session
  Run.ensuring act fun session =>
    redirections.foldl (fun session redirection =>
      let descriptor := descriptorIn redirection
      match before.file? descriptor with
      | some number => session.direct descriptor number
      | none => session.close descriptor) session

/-- Whether something that is no device stands at a path and may not be written over. -/
def isProtected (path : String) : Run Bool := do
  let session ← Run.session
  let world ← Run.world
  if !session.has 'C' then return false
  let loc := (world.files.locate session.directory (hostPath path)).toOption
  return (loc.bind world.files.node?).any Node.isFile

/-- Lets a descriptor lead to the file at a path, and answers whether that was possible. -/
def redirectTo (descriptor : Nat) (opening : Opening) (path : String) : Run Bool := do
  match ← openPath path opening with
  | .ok number =>
    Run.update fun session => session.direct descriptor number
    return true
  | .error e =>
    complain
      (if opening = .read then "cannot open " ++ path ++ ": " ++ openingProblem e
      else "cannot create " ++ path ++ ": " ++ creationProblem e)
    return false

/-- Carries out a redirection, and answers whether that was possible. -/
def redirect (go : Worker) : Redirection → Run Bool
  | .mk descriptor .document word => do
    let chunks ← expandRest (capture go) word wordDepth
    let text := Chunk.join (← Run.session).separator chunks
    let number := (← Run.world).nextFile
    Run.change fun world =>
      world.addFile ⟨.text (Text.octetBytes text), true, false, false, 0⟩
    Run.update fun session => session.direct descriptor number
    return true
  | .mk descriptor .duplicate word => do
    let text ← expandText (capture go) word
    if text = "-" then
      Run.update fun session => session.close descriptor
      return true
    match text.toList with
    | [c] =>
      if !c.isDigit then failWith "Syntax error: Bad fd number"
      let session ← Run.session
      match session.file? (c.toNat - 0x30) with
      | some number =>
        Run.update fun session => session.direct descriptor number
        return true
      | none =>
        complain (text ++ ": Bad file descriptor")
        return false
    | _ => failWith "Syntax error: Bad fd number"
  | .mk descriptor .read word => do
    redirectTo descriptor .read (← expandText (capture go) word)
  | .mk descriptor .append word => do
    redirectTo descriptor .append (← expandText (capture go) word)
  | .mk descriptor .update word => do
    redirectTo descriptor .update (← expandText (capture go) word)
  | .mk descriptor .overwrite word => do
    redirectTo descriptor .write (← expandText (capture go) word)
  | .mk descriptor .write word => do
    let path ← expandText (capture go) word
    if ← isProtected path then
      complain ("cannot create " ++ path ++ ": " ++ reason .alreadyExists)
      return false
    redirectTo descriptor .write path

/-- Carries out redirections up to the first that is not possible, and answers whether there was
none. -/
def redirectAll (go : Worker) : List Redirection → Run Bool
  | [] => return true
  | redirection :: rest => do
    if ← redirect go redirection then redirectAll go rest else return false

end CrossGen.Shell
