import CrossGen.Text.Lines
import CrossGen.Text.Utf8
import Mathlib.Data.List.Basic

/-!
# Cutting into lines

A text is cut behind each of its newlines.  Texts that are put together behind a newline are cut one
by one, a line is not cut any further, and the lines of a text, put together again, are the text.
-/

namespace CrossGen.Text

/-! ## Characters -/

theorem linesFrom_append_newline_cons (line before after : List Char) :
    linesFrom line (before ++ '\n' :: after) =
      linesFrom line (before ++ ['\n']) ++ linesFrom [] after := by
  induction before generalizing line with
  | nil => rfl
  | cons c before ih =>
      rw [List.cons_append, List.cons_append, linesFrom, linesFrom]
      by_cases hc : c = '\n'
      · rw [if_pos hc, if_pos hc, ih, List.cons_append]
      · rw [if_neg hc, if_neg hc, ih]

theorem linesFrom_of_not_mem {cs : List Char} (h : '\n' ∉ cs) (line : List Char) :
    linesFrom line cs = linesFrom (cs.reverse ++ line) [] := by
  induction cs generalizing line with
  | nil => rfl
  | cons c cs ih =>
      obtain ⟨hc, hcs⟩ := List.ne_and_not_mem_of_not_mem_cons h
      have hnext : linesFrom line (c :: cs) = linesFrom (c :: line) cs := if_neg (Ne.symm hc)
      rw [hnext, ih hcs, List.reverse_cons, List.append_assoc]
      rfl

theorem linesFrom_append_newline {cs : List Char} (h : '\n' ∉ cs) (line : List Char) :
    linesFrom line (cs ++ ['\n']) = [line.reverse ++ cs ++ ['\n']] := by
  induction cs generalizing line with
  | nil => simp [linesFrom]
  | cons c cs ih =>
      obtain ⟨hc, hcs⟩ := List.ne_and_not_mem_of_not_mem_cons h
      rw [List.cons_append, linesFrom, if_neg (Ne.symm hc), ih hcs]
      simp

/-- A line of a text is not empty, and a newline stands at its end, if anywhere. -/
theorem newline_not_mem_of_mem_linesFrom
    {line cs l : List Char} (hline : '\n' ∉ line) (h : l ∈ linesFrom line cs) :
    l ≠ [] ∧ '\n' ∉ l.dropLast := by
  induction cs generalizing line with
  | nil =>
      rw [linesFrom] at h
      split at h
      · cases h
      · next hne =>
        obtain rfl := List.mem_singleton.mp h
        refine ⟨by simpa using hne, fun hmem => hline ?_⟩
        exact List.mem_reverse.mp (List.dropLast_subset _ hmem)
  | cons c cs ih =>
      rw [linesFrom] at h
      split at h
      · rcases List.mem_cons.mp h with rfl | h
        · simpa using hline
        · exact ih List.not_mem_nil h
      · next hc => exact ih (List.not_mem_cons_of_ne_of_not_mem (Ne.symm hc) hline) h

/-! ## Texts -/

theorem endsLine_iff {text : String} :
    endsLine text = true ↔ ∃ before, text.toList = before ++ ['\n'] := by
  rw [endsLine, beq_iff_eq, List.getLast?_eq_some_iff]

@[simp]
theorem lines_empty : lines "" = [] := by
  rfl

theorem lines_append {text : String} (h : text = "" ∨ endsLine text = true) (later : String) :
    lines (text ++ later) = lines text ++ lines later := by
  rcases h with rfl | h
  · rw [String.empty_append, lines_empty, List.nil_append]
  · obtain ⟨before, hbefore⟩ := endsLine_iff.mp h
    unfold lines
    rw [String.toList_append, hbefore, List.append_assoc, List.singleton_append,
      linesFrom_append_newline_cons, List.map_append]

theorem join_lines (text : String) : String.join (lines text) = text := by
  have hid : String.toList ∘ String.ofList = id := funext fun _ => String.toList_ofList
  apply String.toList_inj.mp
  rw [String.toList_join, lines, List.flatMap_map, List.flatMap_def, ← Function.comp_def, hid,
    List.map_id, flatten_linesFrom]
  rfl

theorem decode?_toUTF8 (text : String) : decode? text.toUTF8 = some text := by
  have hvalid : text.toUTF8.IsValidUTF8 := text.isValidUTF8
  rw [decode?, String.fromUTF8?, dif_pos hvalid]
  rfl

/-! ## Lines -/

/-- A text is a line if it is not cut any further. -/
def IsLine (line : String) : Prop :=
  lines line = [line]

theorem toList_mem_of_mem_lines {text line : String} (h : line ∈ lines text) :
    line.toList ∈ linesFrom [] text.toList := by
  obtain ⟨cs, hcs, rfl⟩ := List.mem_map.mp h
  rwa [String.toList_ofList]

theorem isLine_iff {line : String} :
    IsLine line ↔ line.toList ≠ [] ∧ '\n' ∉ line.toList.dropLast := by
  constructor
  · intro h
    have hline : line ∈ lines line := by
      rw [h]
      exact List.mem_singleton_self line
    exact newline_not_mem_of_mem_linesFrom List.not_mem_nil (toList_mem_of_mem_lines hline)
  · rintro ⟨hne, hnewline⟩
    have hcs : linesFrom [] line.toList = [line.toList] := by
      rw [← List.dropLast_append_getLast hne]
      by_cases hlast : line.toList.getLast hne = '\n'
      · rw [hlast, linesFrom_append_newline hnewline]
        rfl
      · have hnone : '\n' ∉ line.toList.dropLast ++ [line.toList.getLast hne] := by
          simp [hnewline, Ne.symm hlast]
        rw [linesFrom_of_not_mem hnone]
        simp [linesFrom]
    rw [IsLine, lines, hcs, List.map_singleton, String.ofList_toList]

theorem isLine_append_newline {body : String} (h : '\n' ∉ body.toList) :
    IsLine (body ++ "\n") := by
  have hlist : (body ++ "\n").toList = body.toList ++ ['\n'] := String.toList_append
  rw [isLine_iff, hlist, List.dropLast_concat]
  exact ⟨List.append_ne_nil_of_right_ne_nil _ (List.cons_ne_nil _ _), h⟩

/-- The lines that some text may have: all of them are lines, and all but the last are ended. -/
inductive Lined : List String → Prop
  | nil : Lined []
  | last {line : String} (hline : IsLine line) : Lined [line]
  | cons {line : String} {lines : List String}
      (hline : IsLine line) (hends : endsLine line = true) (hlines : Lined lines) :
      Lined (line :: lines)

theorem Lined.head
    {line : String} {lines : List String} (h : Lined (line :: lines)) :
    IsLine line ∧ Lined lines ∧ (lines = [] ∨ endsLine line = true) := by
  cases h with
  | last hline => exact ⟨hline, .nil, Or.inl rfl⟩
  | cons hline hends hlines => exact ⟨hline, hlines, Or.inr hends⟩

/-- Only the last line may lack its end. -/
theorem Lined.exists_eq_concat
    {line : String} {lines : List String} (h : Lined lines) (hmem : line ∈ lines)
    (hopen : endsLine line = false) : ∃ before, lines = before ++ [line] := by
  induction h with
  | nil => cases hmem
  | last hline =>
      obtain rfl := List.mem_singleton.mp hmem
      exact ⟨[], rfl⟩
  | @cons first lines hline hends hlines ih =>
      have hne : line ≠ first := by
        rintro rfl
        rw [hends] at hopen
        cases hopen
      obtain ⟨before, rfl⟩ := ih ((List.mem_cons.mp hmem).resolve_left hne)
      exact ⟨first :: before, rfl⟩

theorem isLine_of_mem_linesFrom
    {line cs l : List Char} (hline : '\n' ∉ line) (h : l ∈ linesFrom line cs) :
    IsLine (String.ofList l) := by
  rw [isLine_iff, String.toList_ofList]
  exact newline_not_mem_of_mem_linesFrom hline h

theorem lined_map_linesFrom {line : List Char} (hline : '\n' ∉ line) (cs : List Char) :
    Lined ((linesFrom line cs).map String.ofList) := by
  induction cs generalizing line with
  | nil =>
      by_cases hempty : line = []
      · subst hempty
        exact .nil
      · have hlast : linesFrom line [] = [line.reverse] := by simp [linesFrom, hempty]
        have hmem : line.reverse ∈ linesFrom line [] := hlast ▸ List.mem_singleton_self _
        rw [hlast]
        exact .last (isLine_of_mem_linesFrom hline hmem)
  | cons c cs ih =>
      by_cases hc : c = '\n'
      · subst hc
        have hfirst : linesFrom line ('\n' :: cs) = ('\n' :: line).reverse :: linesFrom [] cs :=
          if_pos rfl
        have hmem : ('\n' :: line).reverse ∈ linesFrom line ('\n' :: cs) :=
          hfirst ▸ List.mem_cons_self
        have hends : endsLine (String.ofList ('\n' :: line).reverse) = true := by
          rw [endsLine_iff, String.toList_ofList]
          exact ⟨line.reverse, List.reverse_cons⟩
        rw [hfirst]
        exact .cons (isLine_of_mem_linesFrom hline hmem) hends (ih List.not_mem_nil)
      · rw [linesFrom, if_neg hc]
        exact ih (List.not_mem_cons_of_ne_of_not_mem (Ne.symm hc) hline)

theorem lined_lines (text : String) : Lined (lines text) :=
  lined_map_linesFrom List.not_mem_nil text.toList

end CrossGen.Text
