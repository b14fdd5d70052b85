import CrossGen.Combine.Inlining

/-!
# The text of the pieces

What each operation on a `Progress` adds to the combined text.  Ending a line looks at the last
piece only; that this is the same as looking at the end of the whole text rests on the fact that no
line is empty, which every line of a file satisfies.
-/

namespace CrossGen.Combine

/-! ## Ends of lines -/

/-- A text with a newline at its end, unless it is empty. -/
def terminated (text : String) : String :=
  if text = "" ∨ Text.endsLine text = true then text else text ++ "\n"

@[simp]
theorem terminated_empty : terminated "" = "" := by
  simp [terminated]

theorem terminated_of_endsLine {text : String} (h : Text.endsLine text = true) :
    terminated text = text :=
  if_pos (Or.inr h)

theorem endsLine_append {text last : String} (h : last ≠ "") :
    Text.endsLine (text ++ last) = Text.endsLine last := by
  have hlist : last.toList ≠ [] := by simpa using h
  unfold Text.endsLine
  rw [String.toList_append, List.getLast?_append, List.getLast?_eq_some_getLast hlist]
  rfl

@[simp]
theorem endsLine_append_newline (text : String) : Text.endsLine (text ++ "\n") = true := by
  rw [endsLine_append (by decide)]
  decide

theorem terminated_eq_empty_or_endsLine (text : String) :
    terminated text = "" ∨ Text.endsLine (terminated text) = true := by
  unfold terminated
  split
  · next h => exact h
  · exact Or.inr (endsLine_append_newline text)

/-- Whether a text is ended is decided by what stands behind an ended line. -/
theorem terminated_append {text last : String} (h : text = "" ∨ Text.endsLine text = true) :
    terminated (text ++ last) = text ++ terminated last := by
  by_cases hlast : last = ""
  · subst hlast
    rcases h with rfl | h
    · simp
    · simp [terminated_of_endsLine h]
  · have hne : text ++ last ≠ "" := by simp [hlast]
    unfold terminated
    rw [endsLine_append hlast]
    by_cases hends : Text.endsLine last = true
    · rw [if_pos (Or.inr hends), if_pos (Or.inr hends)]
    · rw [if_neg (not_or.mpr ⟨hne, hends⟩), if_neg (not_or.mpr ⟨hlast, hends⟩),
        String.append_assoc]

/-! ## The lines of a text -/

theorem ne_nil_of_mem_linesFrom
    {line cs : List Char} {l : List Char} (h : l ∈ Text.linesFrom line cs) : l ≠ [] := by
  induction cs generalizing line with
  | nil =>
      unfold Text.linesFrom at h
      split at h
      · cases h
      · next hline =>
        obtain rfl := List.mem_singleton.mp h
        simpa using hline
  | cons c cs ih =>
      unfold Text.linesFrom at h
      split at h
      · rcases List.mem_cons.mp h with rfl | h
        · simp
        · exact ih h
      · exact ih h

theorem ne_empty_of_mem_lines {text line : String} (h : line ∈ Text.lines text) : line ≠ "" := by
  obtain ⟨cs, hcs, rfl⟩ := List.mem_map.mp h
  simpa using ne_nil_of_mem_linesFrom hcs

theorem readLines_eq_ok_iff
    {files : FileSystem} {loc : Location} {lines : List String} :
    readLines files loc = .ok lines ↔
      ∃ bytes text, files.contentAt loc = .ok bytes ∧ Text.decode? bytes = some text ∧
        lines = Text.lines text := by
  unfold readLines
  cases hcontent : files.contentAt loc with
  | error e => simp [Except.bind]
  | ok bytes =>
      cases hdecode : Text.decode? bytes with
      | none => simp [Except.bind, hdecode]
      | some text => simp [Except.bind, hdecode, eq_comm]

theorem ne_empty_of_readLines
    {files : FileSystem} {loc : Location} {lines : List String}
    (h : readLines files loc = .ok lines) : ∀ line ∈ lines, line ≠ "" := by
  obtain ⟨bytes, text, -, -, rfl⟩ := readLines_eq_ok_iff.mp h
  exact fun line hline => ne_empty_of_mem_lines hline

/-! ## What is added to the text -/

namespace Progress

theorem text_push (progress : Progress) (piece : Piece) :
    { progress with pieces := progress.pieces.push piece }.text = progress.text ++ piece.text := by
  simp [text]

theorem text_copy (progress : Progress) (line : String) :
    (progress.copy line).text = progress.text ++ line :=
  text_push progress (.line line)

theorem text_remark (progress : Progress) (kind : Remark) (name : String) :
    (progress.remark kind name).text = progress.text ++ (Piece.remark kind name).text :=
  text_push progress (.remark kind name)

theorem text_enter (progress : Progress) (loc : Location) (name : String) :
    (progress.enter loc name).text = progress.text ++ (Piece.remark .start name).text :=
  text_remark progress .start name

theorem text_copySource (progress : Progress) (line : String) :
    (progress.copySource line).text =
      progress.text ++ if isPragmaOnce line = true then "" else line := by
  unfold copySource
  split
  · simp
  · exact text_copy progress line

theorem endsLine_remark (kind : Remark) (name : String) :
    Text.endsLine (Piece.remark kind name).text = true := by
  rw [Piece.text, endsLine_append (by decide)]
  decide

def HasNoEmptyLine (progress : Progress) : Prop :=
  Piece.line "" ∉ progress.pieces

theorem hasNoEmptyLine_remark
    {progress : Progress} (h : progress.HasNoEmptyLine) (kind : Remark) (name : String) :
    (progress.remark kind name).HasNoEmptyLine := by
  simpa [HasNoEmptyLine, remark] using h

theorem hasNoEmptyLine_enter
    {progress : Progress} (h : progress.HasNoEmptyLine) (loc : Location) (name : String) :
    (progress.enter loc name).HasNoEmptyLine :=
  hasNoEmptyLine_remark h .start name

theorem hasNoEmptyLine_copy
    {progress : Progress} {line : String} (h : progress.HasNoEmptyLine) (hline : line ≠ "") :
    (progress.copy line).HasNoEmptyLine := by
  simpa [HasNoEmptyLine, copy, hline.symm] using h

theorem hasNoEmptyLine_copySource
    {progress : Progress} {line : String} (h : progress.HasNoEmptyLine) (hline : line ≠ "") :
    (progress.copySource line).HasNoEmptyLine := by
  unfold copySource
  split
  · exact h
  · exact hasNoEmptyLine_copy h hline

theorem hasNoEmptyLine_endLine
    {progress : Progress} (h : progress.HasNoEmptyLine) : progress.endLine.HasNoEmptyLine := by
  unfold endLine
  split
  · split
    · exact h
    · simpa [HasNoEmptyLine] using h
  · exact h

theorem text_eq_append_of_back?
    {progress : Progress} {piece : Piece} (h : progress.pieces.back? = some piece) :
    ∃ before, progress.text = before ++ piece.text := by
  obtain ⟨pieces, hpieces⟩ := Array.back?_eq_some_iff.mp h
  refine ⟨({ progress with pieces := pieces } : Progress).text, ?_⟩
  rw [← text_push, ← hpieces]

theorem text_endLine {progress : Progress} (h : progress.HasNoEmptyLine) :
    progress.endLine.text = terminated progress.text := by
  unfold endLine
  cases hback : progress.pieces.back? with
  | none =>
      have hpieces : progress.pieces = #[] := Array.back?_eq_none_iff.mp hback
      simp [text, hpieces]
  | some piece =>
      obtain ⟨before, hbefore⟩ := text_eq_append_of_back? hback
      cases piece with
      | remark kind name =>
          have hends : Text.endsLine progress.text = true := by
            rw [hbefore, endsLine_append (by simp [Piece.text]), endsLine_remark]
          exact (terminated_of_endsLine hends).symm
      | lineEnd =>
          have hends : Text.endsLine progress.text = true := by
            rw [hbefore]
            exact endsLine_append_newline before
          exact (terminated_of_endsLine hends).symm
      | line line =>
          have hline : line ≠ "" := by
            rintro rfl
            exact h (Array.mem_of_back? hback)
          have hends : Text.endsLine progress.text = Text.endsLine line := by
            rw [hbefore]
            exact endsLine_append hline
          have hne : progress.text ≠ "" := by
            rw [hbefore]
            simp [Piece.text, hline]
          dsimp only
          split
          · next hend => exact (terminated_of_endsLine (hends.trans hend)).symm
          · next hend =>
            rw [text_push, terminated, if_neg (not_or.mpr ⟨hne, hends.symm ▸ hend⟩)]
            rfl

end Progress

/-- What is left at an include that is passed over. -/
def passedText (rules : Rules) (line name : String) (loc : Location) : String :=
  if loc ∈ rules.excluded ∧ rules.keepExcluded = true then
    (Piece.remark .kept name).text ++ terminated line
  else (Piece.remark .skipped name).text

theorem text_passOver
    (rules : Rules) {progress : Progress} {line : String} (name : String) (loc : Location)
    (h : progress.HasNoEmptyLine) (hline : line ≠ "") :
    (passOver rules progress line name loc).text =
      progress.text ++ passedText rules line name loc := by
  unfold passOver passedText
  by_cases hkept : loc ∈ rules.excluded ∧ rules.keepExcluded = true
  · have hmarked : Text.endsLine (progress.remark .kept name).text = true := by
      rw [Progress.text_remark, endsLine_append (by simp [Piece.text]),
        Progress.endsLine_remark]
    rw [if_pos hkept, if_pos (by simpa using hkept),
      Progress.text_endLine
        (Progress.hasNoEmptyLine_copy (Progress.hasNoEmptyLine_remark h .kept name) hline),
      Progress.text_copy, terminated_append (Or.inr hmarked), Progress.text_remark,
      String.append_assoc]
  · rw [if_neg hkept, if_neg (by simpa using hkept), Progress.text_remark]

theorem hasNoEmptyLine_passOver
    (rules : Rules) {progress : Progress} {line : String} (name : String) (loc : Location)
    (h : progress.HasNoEmptyLine) (hline : line ≠ "") :
    (passOver rules progress line name loc).HasNoEmptyLine := by
  unfold passOver
  split
  · exact Progress.hasNoEmptyLine_endLine
      (Progress.hasNoEmptyLine_copy (Progress.hasNoEmptyLine_remark h .kept name) hline)
  · exact Progress.hasNoEmptyLine_remark h .skipped name

end CrossGen.Combine
