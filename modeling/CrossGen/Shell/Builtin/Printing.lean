import CrossGen.Shell.Condition
import CrossGen.Shell.Format
import CrossGen.Shell.Job

/-!
# Printing and testing

The commands of the shell that print their arguments, and those that test a condition.
-/

namespace CrossGen.Shell

/-- A command that the shell carries out itself: what it does with its arguments, and the status
that it answers. -/
abbrev Builtin :=
  List String → Run Nat

/-- Reads letters of options at the start of arguments, up to two dashes or the first argument that
is no option. All of them have to be among the given ones. -/
def takeOptions (allowed : List Char) (taken : List Char) :
    List String → Run (List Char × List String)
  | [] => return (taken, [])
  | arg :: args => do
    match arg.toList with
    | ['-', '-'] => return (taken, args)
    | '-' :: c :: cs =>
      match (c :: cs).find? fun letter => !allowed.contains letter with
      | some letter => failWith ("Illegal option -" ++ String.singleton letter)
      | none => takeOptions allowed (taken ++ (c :: cs)) args
    | _ => return (taken, arg :: args)

def echoEscaped : Builtin := fun args => do
  let (args, isEnded) := match args with
    | "-n" :: rest => (rest, false)
    | _ => (args, true)
  let (text, stopped) := escaped (" ".intercalate args)
  say (if isEnded && !stopped then text ++ "\n" else text)
  return 0

def printFormatted : Builtin := fun args => do
  match (← takeOptions [] [] args).2 with
  | [] => failWith "usage: printf format [arg ...]"
  | format :: args =>
    let done := formatted format args
    say done.text
    for (arg, fault) in done.faults do complain (arg ++ ": " ++ fault.words)
    if let some fault := done.fatal then failWith fault
    return if done.faults.isEmpty then 0 else 1

def testCondition : Builtin := fun operands => do
  let view : Condition.View := ⟨(← Run.world).files, (← Run.session).directory⟩
  match Condition.holds view (operands.length + 1) operands with
  | .ok outcome => return if outcome then 0 else 1
  | .error text => failWith text

def testBracket : Builtin := fun operands => do
  if operands.getLast? = some "]" then testCondition operands.dropLast else failWith "missing ]"

end CrossGen.Shell
