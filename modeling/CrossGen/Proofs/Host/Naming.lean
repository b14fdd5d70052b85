import CrossGen.Proofs.Host.Walking
import Mathlib.Data.List.Basic

/-!
# Entries of a directory

A path that is made of a directory and a plain name leads to the entry of that name.  Two names are
two entries, unless a link stands under one of them.
-/

namespace CrossGen

namespace Path

theorem join_of_isAbsolute {p : Path} (h : p.isAbsolute = true) (dir : Path) : dir.join p = p :=
  if_pos h

theorem isAbsolute_join {dir : Path} (h : dir.isAbsolute = true) (p : Path) :
    (dir.join p).isAbsolute = true := by
  have hbegins : ∀ text : String, (⟨dir.text ++ text⟩ : Path).isAbsolute = true := by
    intro text
    unfold isAbsolute at h ⊢
    cases htext : dir.text.toList with
    | nil =>
        rw [htext] at h
        cases h
    | cons c cs =>
        rw [htext] at h
        rw [String.toList_append, htext]
        exact h
  unfold join
  split
  · next habsolute => exact habsolute
  · split
    · exact hbegins p.text
    · rw [String.append_assoc]
      exact hbegins _

/-- A name without a separator. -/
structure PlainName (name : String) : Prop where
  ne_empty : name ≠ ""
  separator_notMem : '/' ∉ name.toList

theorem names_go_append (name before after : List Char) :
    names.go name (before ++ '/' :: after) = names.go name before ++ names.go [] after := by
  induction before generalizing name with
  | nil => by_cases h : name.isEmpty = true <;> simp [names.go, h]
  | cons c before ih =>
      rw [List.cons_append, names.go, names.go]
      by_cases hc : c = '/'
      · by_cases h : name.isEmpty = true <;> simp [hc, h, ih]
      · simp [hc, ih]

theorem names_go_of_notMem
    (name : List Char) {cs : List Char} (h : '/' ∉ cs) (hne : name.reverse ++ cs ≠ []) :
    names.go name cs = [String.ofList (name.reverse ++ cs)] := by
  induction cs generalizing name with
  | nil =>
      have hname : name ≠ [] := by simpa using hne
      simp [names.go, hname]
  | cons c cs ih =>
      obtain ⟨hc, hcs⟩ := List.ne_and_not_mem_of_not_mem_cons h
      rw [names.go, if_neg (Ne.symm hc), ih _ hcs (by simp)]
      simp

variable {dir : Path} {name : String}

theorem isAbsolute_of_plain (h : PlainName name) : (⟨name⟩ : Path).isAbsolute = false := by
  rw [isAbsolute, beq_eq_false_iff_ne]
  intro hhead
  exact h.separator_notMem (List.mem_of_mem_head? hhead)

/-- A path in a directory is the name alone, or begins as the directory does and goes on with the
name after a separator. -/
theorem toList_div (h : PlainName name) :
    (dir.text.toList = [] ∧ (dir / name).text.toList = name.toList) ∨
      ∃ before, (dir / name).text.toList = before ++ '/' :: name.toList ∧
        names.go [] before = dir.names ∧ (before ++ ['/']).head? = dir.text.toList.head? := by
  have hdiv : dir / name =
      if dir.needsNoSeparator then ⟨dir.text ++ name⟩ else ⟨dir.text ++ "/" ++ name⟩ := by
    show dir.join ⟨name⟩ = _
    rw [join, isAbsolute_of_plain h]
    rfl
  cases hlast : dir.text.toList.getLast? with
  | none =>
      have hempty := List.getLast?_eq_none_iff.mp hlast
      have hneeds : dir.needsNoSeparator = true := by
        rw [needsNoSeparator, hlast]
      rw [hdiv, if_pos hneeds]
      exact .inl ⟨hempty, by simp [hempty]⟩
  | some c =>
      obtain ⟨before, hbefore⟩ := List.getLast?_eq_some_iff.mp hlast
      by_cases hc : c = '/'
      · subst hc
        have hneeds : dir.needsNoSeparator = true := by
          rw [needsNoSeparator, hlast]
          rfl
        have hnames : names.go [] before = dir.names := by
          rw [names, hbefore, names_go_append]
          simp [names.go]
        rw [hdiv, if_pos hneeds]
        exact .inr ⟨before, by simp [hbefore], hnames, by rw [hbefore]⟩
      · have hneeds : ¬dir.needsNoSeparator = true := by
          rw [needsNoSeparator, hlast]
          simpa using hc
        rw [hdiv, if_neg hneeds]
        exact .inr ⟨dir.text.toList, by simp, rfl, by simp [hbefore]⟩

theorem names_go_of_plain (h : PlainName name) : names.go [] name.toList = [name] := by
  rw [names_go_of_notMem [] h.separator_notMem (by simpa using h.ne_empty)]
  simp

theorem names_div (h : PlainName name) : (dir / name).names = dir.names ++ [name] := by
  rcases toList_div h with ⟨hempty, htext⟩ | ⟨before, htext, hnames, -⟩
  · rw [names, names, htext, hempty, names_go_of_plain h]
    rfl
  · rw [names, htext, names_go_append, hnames, names_go_of_plain h]

theorem steps_div (h : PlainName name) : (dir / name).steps = dir.names ++ [name] := by
  have hne : name.toList ≠ [] := by simpa using h.ne_empty
  have hlast : (dir / name).text.toList.getLast? = name.toList.getLast? := by
    rcases toList_div h with ⟨-, htext⟩ | ⟨before, htext, -, -⟩
    · rw [htext]
    · rw [htext, List.getLast?_append_of_ne_nil _ (List.cons_ne_nil _ _),
        List.getLast?_cons_of_ne_nil hne]
  have hends : (dir / name).endsInSeparator = false := by
    rw [endsInSeparator, beq_eq_false_iff_ne, hlast]
    intro hsep
    exact h.separator_notMem (List.mem_of_getLast? hsep)
  rw [steps, hends, names_div h]
  rfl

theorem isAbsolute_div (h : PlainName name) : (dir / name).isAbsolute = dir.isAbsolute := by
  rcases toList_div h with ⟨hempty, htext⟩ | ⟨before, htext, -, hhead⟩
  · have hname : (dir / name) = ⟨name⟩ := by
      cases hpath : dir / name
      rw [hpath] at htext
      exact congrArg Path.mk (String.toList_inj.mp htext)
    rw [hname, isAbsolute_of_plain h, isAbsolute, hempty]
    rfl
  · have hsame : (dir / name).text.toList.head? = dir.text.toList.head? := by
      rw [htext, ← hhead]
      cases before <;> rfl
    rw [isAbsolute, hsame]
    rfl

end Path

namespace FileSystem

variable {files : FileSystem} {here : Location} {dir : Path}

/-- A path in a directory leads to the entry of its name, unless that is a link.  The place of the
directory does not depend on the name. -/
theorem exists_directory_of_locate_div
    {name : String} {loc : Location} (h : Path.PlainName name) (hdots : name ≠ "." ∧ name ≠ "..")
    (hlocate : files.locate here (dir / name) = .ok loc) :
    ∃ parent,
      files.Leads longestChain (if dir.isAbsolute then .root else here) dir.names
        (.node parent) ∧
      ((∀ target, files.node? (parent.child name) ≠ some (.link target)) →
        loc = parent.child name) := by
  obtain ⟨first, hstart, hleads⟩ := locate_eq_ok_iff.mp hlocate
  rw [Path.steps_div h] at hleads
  have hfirst : first = if dir.isAbsolute then .root else here := by
    rw [eq_of_start hstart, Path.isAbsolute_div h]
  rw [← hfirst]
  exact hleads.exists_directory hdots

/-- No link bears this name, in whatever directory. -/
def LinkFree (files : FileSystem) (name : String) : Prop :=
  ∀ loc target, files.node? loc = some (.link target) → loc.names.getLast? ≠ some name

theorem linkFree_empty (name : String) : FileSystem.empty.LinkFree name := by
  intro loc target hnode
  unfold node? at hnode
  split at hnode <;> cases hnode

theorem LinkFree.put
    {name : String} {node : Node} (h : files.LinkFree name) (hnode : ∀ target, node ≠ .link target)
    (loc : Location) :
    (files.put loc node).LinkFree name := by
  intro other target hlink
  by_cases hother : other = loc
  · subst hother
    by_cases hroot : other = .root
    · rw [node?, if_pos hroot] at hlink
      cases hlink
    · rw [node?_put_self files node hroot] at hlink
      exact absurd (Option.some.inj hlink) (hnode target)
  · rw [node?_put_of_ne files node hother] at hlink
    exact h other target hlink

/-- Paths in one directory that lead to the same node end in the same name, unless that is the name of
a link. -/
theorem name_eq_of_locate_div
    {name other : String} {loc : Location} (h : Path.PlainName name) (hother : Path.PlainName other)
    (hdots : name ≠ "." ∧ name ≠ "..") (hotherDots : other ≠ "." ∧ other ≠ "..")
    (hfree : files.LinkFree name) (hotherFree : files.LinkFree other)
    (hlocate : files.locate here (dir / name) = .ok loc)
    (hotherLocate : files.locate here (dir / other) = .ok loc) :
    name = other := by
  have hchild : ∀ {parent : Location} {entry : String}, files.LinkFree entry →
      ∀ target, files.node? (parent.child entry) ≠ some (.link target) :=
    fun hentry target hlink => hentry _ target hlink List.getLast?_concat
  -- Both walks go to the directory first, and that is one and the same.
  obtain ⟨parent, hparent, hloc⟩ := exists_directory_of_locate_div h hdots hlocate
  obtain ⟨second, hsecond, hotherLoc⟩ :=
    exists_directory_of_locate_div hother hotherDots hotherLocate
  obtain rfl : parent = second := Place.node.inj (hparent.place_eq hsecond)
  have hsame : parent.child name = parent.child other :=
    (hloc (hchild hfree)).symm.trans (hotherLoc (hchild hotherFree))
  exact List.singleton_inj.mp (List.append_cancel_left (congrArg Location.names hsame))

end FileSystem

end CrossGen
