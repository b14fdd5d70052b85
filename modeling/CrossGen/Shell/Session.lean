import CrossGen.Environment
import CrossGen.Shell.Syntax
import CrossGen.Shell.World

/-!
# What a process has for itself

The state of a process: the directory that it is in, the files that it has open, and what a shell
keeps while it carries out a script.
-/

namespace CrossGen.Shell

/-- A variable. It may be marked without having a value. -/
structure Variable where
  value : Option String
  exported : Bool
  readonly : Bool
deriving DecidableEq

/-- How far the options among the arguments of a script have been taken: the place of the next
argument, and the number of characters that have been taken out of the one before it, unless that is
done with. -/
structure Scan where
  place : Nat
  offset : Nat
deriving DecidableEq

def Scan.start : Scan := ⟨1, 0⟩

/-- The state of a process. The leader is the shell that it comes from. The speaker is the command
that messages come from, besides the shell itself. Options are known by their letters, and programs
are known once they have been looked for. Output may wait to be written, and the error at which it
was lost is kept until it is reported. -/
structure Session where
  number : Nat
  leader : Nat
  name : String
  args : List String
  directory : Location
  place : String
  bindings : List (String × Variable)
  functions : List (String × Script)
  hidden : List (List (String × Option Variable))
  options : List Char
  status : Nat
  inner : Nat
  line : Nat
  speaker : Option String
  loops : Nat
  traps : List (Nat × String)
  pending : List Nat
  background : Option Nat
  children : List Nat
  descriptors : List (Nat × Nat)
  scan : Scan
  mask : Nat
  known : List String
  waiting : String
  unwritten : Option IoError

namespace Session

/-- A variable, if it is known. -/
def held? (session : Session) (name : String) : Option Variable :=
  (session.bindings.find? fun entry => entry.1 == name).map Prod.snd

def value? (session : Session) (name : String) : Option String :=
  (session.held? name).bind Variable.value

/-- Changes a variable, which is added behind the others if it is not known. -/
def setVariable (session : Session) (name : String) (v : Variable) : Session :=
  if session.bindings.any fun entry => entry.1 == name then
    { session with
      bindings := session.bindings.map fun entry =>
        if entry.1 == name then (name, v) else entry }
  else { session with bindings := session.bindings ++ [(name, v)] }

/-- Forgets a variable. -/
def dropVariable (session : Session) (name : String) : Session :=
  { session with bindings := session.bindings.filter fun entry => entry.1 != name }

/-- Sets the value of a variable. -/
def assign (session : Session) (name value : String) : Session :=
  let old := (session.held? name).getD ⟨none, false, false⟩
  session.setVariable name
    { old with
      value := some value
      exported := old.exported || session.options.contains 'a' }

/-- The place of a variable in the order in which programs see them. -/
def bucket (name : String) : Nat :=
  match name.toList with
  | [] => 0
  | c :: cs => (c.toNat * 16 + (c :: cs).foldl (fun n d => n + d.toNat) 0) % 39

/-- The variables that programs started by a shell see, in order. -/
def exports (session : Session) : List (String × String) :=
  let own := session.bindings.filterMap fun (name, v) =>
    if v.exported then v.value.map fun value => (name, value) else none
  own.mergeSort fun a b => bucket a.1 ≤ bucket b.1

/-- The number of the open file that a descriptor leads to. -/
def file? (session : Session) (descriptor : Nat) : Option Nat :=
  (session.descriptors.find? fun entry => entry.1 == descriptor).map Prod.snd

/-- Lets a descriptor lead to an open file. -/
def direct (session : Session) (descriptor file : Nat) : Session :=
  { session with
    descriptors :=
      (descriptor, file) :: session.descriptors.filter fun entry => entry.1 != descriptor }

def close (session : Session) (descriptor : Nat) : Session :=
  { session with
    descriptors := session.descriptors.filter fun entry => entry.1 != descriptor }

/-- What a shell does at a signal, if it takes care of it. -/
def trap? (session : Session) (signal : Nat) : Option String :=
  (session.traps.find? fun entry => entry.1 == signal).map Prod.snd

def has (session : Session) (option : Char) : Bool :=
  session.options.contains option

end Session

/-- The characters that divide fields: those of a variable, or blanks. -/
def Session.dividers (session : Session) : List Char :=
  match session.held? "IFS" with
  | some v => (v.value.getD " \t\n").toList
  | none => [' ', '\t', '\n']

def hostPath (text : String) : Path :=
  ⟨Text.ofOctets text⟩

def shellPath (loc : Location) : String :=
  Text.toOctets loc.path.text

end CrossGen.Shell
