import CrossGen.Combine.Directive
import CrossGen.Failure
import CrossGen.Host.Walk
import CrossGen.Text.Lines
import CrossGen.Text.Utf8

/-!
# Inlining

One text is made of a file and all that it includes. The first include of a file is replaced by its
text, every later one by a remark. Excluded files are never read. Includes that lead nowhere are
copied, and so is every other line except those that ask for a file to be included once.

The work is a stack of tasks. Every step either completes a task or opens a file that was not open
before, of which there are finitely many, so that cycles of includes do no harm.
-/

namespace CrossGen.Combine

/-- Where included files are looked for. -/
structure Scope where
  files : FileSystem
  here : Location
  roots : List Path

/-- The file of the given name, in the directory `dir` or else in the first root that has it. -/
def Scope.resolve (scope : Scope) (dir : Option Location) (name : Path) : Option Location :=
  ((dir.map Location.path).toList ++ scope.roots).findSome? fun base =>
    scope.files.fileAt? scope.here (base.join name)

/-- A lookup with the rules for what it finds. -/
structure Rules extends Scope where
  excluded : List Location
  keepExcluded : Bool

/-- The rules of a scope. What an exclude leads to from a root is excluded under every name. -/
def Rules.make (scope : Scope) (excludes : List Path) (keepExcluded : Bool) : Rules :=
  { scope with
    excluded := excludes.filterMap (scope.resolve none)
    keepExcluded := keepExcluded }

/-- What a remark says about an include. -/
inductive Remark where
  | start
  | finish
  | skipped
  | kept
deriving DecidableEq, Repr

def Remark.wording : Remark → String
  | start => "start inlining"
  | finish => "ended inlining"
  | skipped => "skipping file:"
  | kept => "*NOT* inlining"

/-- A piece of the combined text: a remark about the include of a name, a line as it stands in its
file, or the end of a line that lacks it. -/
inductive Piece where
  | remark (kind : Remark) (name : String)
  | line (text : String)
  | lineEnd
deriving DecidableEq, Repr

def Piece.text : Piece → String
  | .remark kind name => "/**** " ++ kind.wording ++ " " ++ name ++ " ****/\n"
  | .line text => text
  | .lineEnd => "\n"

/-- How far inlining has come: the files opened so far, the last one first, and the pieces. -/
structure Progress where
  opened : List Location
  pieces : Array Piece

namespace Progress

/-- The combined text so far. -/
def text (progress : Progress) : String :=
  String.join (progress.pieces.toList.map Piece.text)

/-- Copies a line. -/
def copy (progress : Progress) (line : String) : Progress :=
  { progress with pieces := progress.pieces.push (.line line) }

/-- Copies a line that includes nothing, unless it asks for its file to be included once. -/
def copySource (progress : Progress) (line : String) : Progress :=
  if isPragmaOnce line then progress else progress.copy line

def remark (progress : Progress) (kind : Remark) (name : String) : Progress :=
  { progress with pieces := progress.pieces.push (.remark kind name) }

/-- Ends the last line, if it is not ended. -/
def endLine (progress : Progress) : Progress :=
  match progress.pieces.back? with
  | some (.line line) =>
    if Text.endsLine line then progress
    else { progress with pieces := progress.pieces.push .lineEnd }
  | _ => progress

/-- Opens a file that is included under the given name. -/
def enter (progress : Progress) (loc : Location) (name : String) : Progress :=
  { progress.remark .start name with opened := loc :: progress.opened }

@[simp]
theorem opened_copy (progress : Progress) (line : String) :
    (progress.copy line).opened = progress.opened :=
  rfl

@[simp]
theorem opened_copySource (progress : Progress) (line : String) :
    (progress.copySource line).opened = progress.opened := by
  unfold copySource
  split <;> rfl

@[simp]
theorem opened_remark (progress : Progress) (kind : Remark) (name : String) :
    (progress.remark kind name).opened = progress.opened :=
  rfl

@[simp]
theorem opened_endLine (progress : Progress) : progress.endLine.opened = progress.opened := by
  unfold endLine
  split
  · split <;> rfl
  · rfl

@[simp]
theorem opened_enter (progress : Progress) (loc : Location) (name : String) :
    (progress.enter loc name).opened = loc :: progress.opened :=
  rfl

end Progress

/-- What is left to do: a line of a file in the directory `dir`, or the end of an inlined file. -/
inductive Task where
  | line (dir : Location) (text : String)
  | finish (name : String)
deriving DecidableEq, Repr

/-- The lines of the file at a location. -/
def readLines (files : FileSystem) (loc : Location) : Except Failure (List String) :=
  match (files.contentAt loc).bind fun bytes => (Text.decode? bytes).elim (.error .notText) .ok with
  | .error e => .error (.combine ("reading " ++ loc.path.text ++ ": " ++ e.message))
  | .ok text => .ok (Text.lines text)

def fileTasks (loc : Location) (lines : List String) : List Task :=
  lines.map (Task.line loc.parent)

/-- Leaves a remark where `line` includes, under the given name, a file that is excluded or that was
opened before. -/
def passOver (rules : Rules) (progress : Progress) (line name : String) (loc : Location) :
    Progress :=
  if loc ∈ rules.excluded && rules.keepExcluded then
    ((progress.remark .kept name).copy line).endLine
  else progress.remark .skipped name

@[simp]
theorem opened_passOver (rules : Rules) (progress : Progress) (line name : String)
    (loc : Location) : (passOver rules progress line name loc).opened = progress.opened := by
  unfold passOver
  split <;> simp

/-- The number of files that are not opened yet. -/
def unopened (files : FileSystem) (opened : List Location) : Nat :=
  files.fileLocations.countP fun loc => loc ∉ opened

theorem countP_lt_countP {α : Type} {p q : α → Bool} {xs : List α} {a : α}
    (hpq : ∀ x, p x = true → q x = true) (ha : a ∈ xs) (hp : p a = false) (hq : q a = true) :
    xs.countP p < xs.countP q := by
  induction xs with
  | nil => cases ha
  | cons x xs ih =>
    have hle : xs.countP p ≤ xs.countP q := List.countP_mono_left fun y _ => hpq y
    rcases List.mem_cons.mp ha with rfl | ha
    · simp only [List.countP_cons, hp, hq]
      simpa using Nat.lt_succ_of_le hle
    · have hlt := ih ha
      simp only [List.countP_cons]
      by_cases hx : p x = true
      · simpa [hx, hpq x hx] using hlt
      · rw [if_neg hx, Nat.add_zero]
        exact Nat.lt_of_lt_of_le hlt (Nat.le_add_right _ _)

/-- Opening a file leaves fewer to be opened. -/
theorem unopened_cons_lt {files : FileSystem} {opened : List Location} {loc : Location}
    (hfile : loc ∈ files.fileLocations) (hnew : loc ∉ opened) :
    unopened files (loc :: opened) < unopened files opened := by
  refine countP_lt_countP (fun other h => ?_) hfile (by simp) (by simpa using hnew)
  simp only [List.mem_cons, not_or, decide_eq_true_eq] at h ⊢
  exact h.2

theorem Scope.mem_fileLocations_of_resolve
    {scope : Scope} {dir : Option Location} {name : Path} {loc : Location}
    (h : scope.resolve dir name = some loc) : loc ∈ scope.files.fileLocations := by
  obtain ⟨base, -, hbase⟩ := List.exists_of_findSome?_eq_some h
  exact FileSystem.fileAt?_mem_fileLocations hbase

/-- Carries out the given tasks. -/
def inline (rules : Rules) (tasks : List Task) (progress : Progress) : Except Failure Progress :=
  match tasks with
  | [] => .ok progress
  | .finish name :: rest => inline rules rest (progress.endLine.remark .finish name)
  | .line dir text :: rest =>
    match includeName? text with
    | none => inline rules rest (progress.copySource text)
    | some name =>
      match _hfound : rules.resolve (some dir) ⟨name⟩ with
      | none => inline rules rest (progress.copy text)
      | some loc =>
        if _hskip : loc ∈ rules.excluded ∨ loc ∈ progress.opened then
          inline rules rest (passOver rules progress text name loc)
        else
          match readLines rules.files loc with
          | .error e => .error e
          | .ok lines =>
            inline rules (fileTasks loc lines ++ .finish name :: rest) (progress.enter loc name)
termination_by (unopened rules.files progress.opened, tasks.length)
decreasing_by
  · rw [Progress.opened_remark, Progress.opened_endLine]
    exact Prod.Lex.right _ (Nat.lt_succ_self _)
  · rw [Progress.opened_copySource]
    exact Prod.Lex.right _ (Nat.lt_succ_self _)
  · rw [Progress.opened_copy]
    exact Prod.Lex.right _ (Nat.lt_succ_self _)
  · rw [opened_passOver]
    exact Prod.Lex.right _ (Nat.lt_succ_self _)
  · rw [Progress.opened_enter]
    refine Prod.Lex.left _ _ (unopened_cons_lt (Scope.mem_fileLocations_of_resolve _hfound) ?_)
    exact fun hopened => _hskip (Or.inr hopened)

/-- Combines the file at `input` with all that it includes. -/
def combine (rules : Rules) (input : Path) : Except Failure Progress :=
  match rules.files.locate rules.here input with
  | .error e => .error (.combine (input.text ++ ": " ++ e.message))
  | .ok loc =>
    match readLines rules.files loc with
    | .error e => .error e
    | .ok lines => inline rules (fileTasks loc lines) ⟨[loc], #[]⟩

end CrossGen.Combine
