import CrossGen.Combine.Inlining
import CrossGen.Proofs.Text.Lines
import Mathlib.Data.List.TakeDrop
import Mathlib.Data.List.TakeWhile

/-!
# Directives

What makes a line a directive stands before its end: the newline behind a line, or the lack of it,
does not change which directive it is.  A name that a line includes is a piece of that line, and a
remark about it is a line of its own and no directive.
-/

namespace CrossGen.Combine

/-! ## Words of a directive -/

theorem eq_append_of_after? {start cs rest : List Char} (h : after? start cs = some rest) :
    cs = start ++ rest := by
  induction start generalizing cs with
  | nil => exact Option.some.inj h
  | cons a start ih =>
      cases cs with
      | nil => cases h
      | cons c cs =>
          rw [after?] at h
          split at h
          · next hc => rw [ih h, hc, List.cons_append]
          · cases h

theorem after?_append_of_not_mem
    {start cs : List Char} {last : Char} (h : last ∉ start) :
    after? start (cs ++ [last]) = (after? start cs).map (· ++ [last]) := by
  induction start generalizing cs with
  | nil => rfl
  | cons a start ih =>
      obtain ⟨ha, hstart⟩ := List.ne_and_not_mem_of_not_mem_cons h
      cases cs with
      | nil =>
          have hnone : after? (a :: start) [last] = none := if_neg (Ne.symm ha)
          rw [List.nil_append, hnone]
          rfl
      | cons c cs =>
          rw [List.cons_append, after?, after?]
          by_cases hc : a = c
          · rw [if_pos hc, if_pos hc, ih hstart]
          · rw [if_neg hc, if_neg hc]
            rfl

/-- A newline behind a text stays behind what follows the blanks, or is a blank itself. -/
theorem after?_dropBlanks_append_newline
    {start cs : List Char} (hne : start ≠ []) (h : '\n' ∉ start) :
    after? start (Text.dropBlanks (cs ++ ['\n'])) =
      (after? start (Text.dropBlanks cs)).map (· ++ ['\n']) := by
  have hdrop : Text.dropBlanks (cs ++ ['\n']) =
      if (Text.dropBlanks cs).isEmpty = true then [] else Text.dropBlanks cs ++ ['\n'] :=
    List.dropWhile_append
  rw [hdrop]
  cases hrest : Text.dropBlanks cs with
  | nil =>
      obtain ⟨a, rest, rfl⟩ := List.exists_cons_of_ne_nil hne
      rfl
  | cons c rest => exact after?_append_of_not_mem h

theorem suffix_of_after? {start cs rest : List Char} (h : after? start cs = some rest) :
    rest <:+ cs :=
  ⟨start, (eq_append_of_after? h).symm⟩

theorem dropBlanks_suffix (cs : List Char) : Text.dropBlanks cs <:+ cs :=
  List.dropWhile_suffix Text.isBlank

/-- What follows a word of a directive. -/
def word? (word : String) (cs : List Char) : Option (List Char) :=
  after? word.toList (Text.dropBlanks cs)

theorem suffix_of_word? {word : String} {cs rest : List Char} (h : word? word cs = some rest) :
    rest <:+ cs :=
  (suffix_of_after? h).trans (dropBlanks_suffix cs)

theorem word?_append_newline {word : String} (hne : word ≠ "") (h : '\n' ∉ word.toList)
    (cs : List Char) :
    word? word (cs ++ ['\n']) = (word? word cs).map (· ++ ['\n']) :=
  after?_dropBlanks_append_newline (by simpa using hne) h

theorem bind_word?_append_newline {word : String} (hne : word ≠ "") (h : '\n' ∉ word.toList)
    (read : Option (List Char)) :
    (read.map (· ++ ['\n'])).bind (word? word) =
      (read.bind (word? word)).map (· ++ ['\n']) := by
  cases read with
  | none => rfl
  | some cs => exact word?_append_newline hne h cs

/-- No text starts both an include and the request to include a file once. -/
theorem after?_pragma_of_after?_include
    {cs rest : List Char} (h : after? "include".toList cs = some rest) :
    after? "pragma".toList cs = none := by
  have hinclude : "include".toList = 'i' :: "nclude".toList := by decide
  have hpragma : "pragma".toList = 'p' :: "ragma".toList := by decide
  rw [hinclude] at h
  rw [hpragma]
  cases cs with
  | nil => rfl
  | cons c cs =>
      rw [after?] at h ⊢
      split at h
      · next hc => simp [← hc]
      · cases h

/-! ## The request to include a file once -/

theorem isPragmaOnce_eq (line : String) :
    isPragmaOnce line =
      (((word? "#" line.toList).bind (word? "pragma")).bind (word? "once")).isSome := by
  have hmark : after? ['#'] (Text.dropBlanks line.toList) = word? "#" line.toList := rfl
  rw [isPragmaOnce, directive?, hmark, Option.bind_map]
  rfl

theorem isPragmaOnce_append_newline (line : String) :
    isPragmaOnce (line ++ "\n") = isPragmaOnce line := by
  have hlist : (line ++ "\n").toList = line.toList ++ ['\n'] := String.toList_append
  rw [isPragmaOnce_eq, isPragmaOnce_eq, hlist,
    word?_append_newline (by decide) (by decide),
    bind_word?_append_newline (by decide) (by decide),
    bind_word?_append_newline (by decide) (by decide), Option.isSome_map]

/-! ## Includes -/

/-- The name before the next quote. -/
def quotedName? (cs : List Char) : Option String :=
  match cs.span (· != '"') with
  | ([], _) => none
  | (_, []) => none
  | (name, _ :: _) => some (String.ofList name)

theorem includeName?_eq (line : String) :
    includeName? line =
      (((word? "#" line.toList).bind (word? "include")).bind (word? "\"")).bind quotedName? := by
  have hmark : after? ['#'] (Text.dropBlanks line.toList) = word? "#" line.toList := rfl
  have hstart : (directive? line).bind (after? "include".toList) =
      (word? "#" line.toList).bind (word? "include") := by
    rw [directive?, hmark, Option.bind_map]
    rfl
  rw [includeName?, hstart]
  cases (word? "#" line.toList).bind (word? "include") <;> rfl

theorem quotedName?_eq_some_iff {cs : List Char} {name : String} :
    quotedName? cs = some name ↔
      name ≠ "" ∧ '"' ∉ name.toList ∧ ∃ after, cs = name.toList ++ '"' :: after := by
  unfold quotedName?
  rw [List.span_eq_takeWhile_dropWhile]
  constructor
  · intro h
    split at h
    · cases h
    · cases h
    · next before c after hne hspan =>
      obtain ⟨htake, hdrop⟩ := Prod.mk.inj hspan
      obtain rfl := Option.some.inj h
      have hquote : c = '"' := by
        have hhead := List.head?_dropWhile_not (· != '"') cs
        rw [hdrop] at hhead
        simpa using hhead
      rw [String.toList_ofList]
      refine ⟨by simpa using hne, ?_, after, ?_⟩
      · intro hmem
        rw [← htake] at hmem
        simpa using List.mem_takeWhile_imp hmem
      · rw [← List.takeWhile_append_dropWhile (p := (· != '"')) (l := cs), htake, hdrop, hquote]
  · rintro ⟨hne, hquote, after, rfl⟩
    have hpos : ∀ c ∈ name.toList, (c != '"') = true := by
      intro c hc
      exact bne_iff_ne.mpr fun hsame => hquote (hsame ▸ hc)
    have htake : (name.toList ++ '"' :: after).takeWhile (· != '"') = name.toList := by
      rw [List.takeWhile_append_of_pos hpos, List.takeWhile_cons_of_neg (by simp), List.append_nil]
    have hdrop : (name.toList ++ '"' :: after).dropWhile (· != '"') = '"' :: after := by
      rw [List.dropWhile_append_of_pos hpos, List.dropWhile_cons_of_neg (by simp)]
    have hname : name.toList ≠ [] := by simpa using hne
    rw [htake, hdrop]
    obtain ⟨c, cs, hcs⟩ := List.exists_cons_of_ne_nil hname
    rw [hcs]
    dsimp only
    rw [← hcs, String.ofList_toList]

/-- A newline that stands behind the quote, or in a text without one, does not change the name. -/
theorem quotedName?_append_newline (cs : List Char) :
    quotedName? (cs ++ ['\n']) = quotedName? cs := by
  apply Option.ext
  intro name
  rw [quotedName?_eq_some_iff, quotedName?_eq_some_iff]
  have hafter : (∃ after, cs ++ ['\n'] = name.toList ++ '"' :: after) ↔
      ∃ after, cs = name.toList ++ '"' :: after := by
    constructor
    · rintro ⟨after, h⟩
      rcases List.eq_nil_or_concat' after with rfl | ⟨before, last, rfl⟩
      · have hlast := (List.append_inj' h rfl).2
        cases hlast
      · rw [← List.cons_append, ← List.append_assoc] at h
        exact ⟨before, (List.append_inj' h rfl).1⟩
    · rintro ⟨after, rfl⟩
      exact ⟨after ++ ['\n'], by simp⟩
  rw [hafter]

theorem includeName?_append_newline (line : String) :
    includeName? (line ++ "\n") = includeName? line := by
  have hlist : (line ++ "\n").toList = line.toList ++ ['\n'] := String.toList_append
  have hname (read : Option (List Char)) :
      (read.map (· ++ ['\n'])).bind quotedName? = read.bind quotedName? := by
    cases read with
    | none => rfl
    | some cs => exact quotedName?_append_newline cs
  rw [includeName?_eq, includeName?_eq, hlist,
    word?_append_newline (by decide) (by decide),
    bind_word?_append_newline (by decide) (by decide),
    bind_word?_append_newline (by decide) (by decide), hname]

/-- The name that a line includes stands in the line, with a quote behind it. -/
theorem exists_quote_of_includeName?
    {line name : String} (h : includeName? line = some name) :
    ∃ before after, line.toList = before ++ name.toList ++ '"' :: after := by
  rw [includeName?_eq] at h
  obtain ⟨quoted, hquoted, hname⟩ := Option.bind_eq_some_iff.mp h
  obtain ⟨included, hincluded, hopening⟩ := Option.bind_eq_some_iff.mp hquoted
  obtain ⟨marked, hmark, hkeyword⟩ := Option.bind_eq_some_iff.mp hincluded
  obtain ⟨before, hbefore⟩ :=
    ((suffix_of_word? hopening).trans (suffix_of_word? hkeyword)).trans (suffix_of_word? hmark)
  obtain ⟨-, -, after, hparts⟩ := quotedName?_eq_some_iff.mp hname
  refine ⟨before, after, ?_⟩
  rw [← hbefore, hparts, List.append_assoc]

theorem newline_not_mem_of_includeName?
    {line name : String} (hline : Text.IsLine line) (h : includeName? line = some name) :
    '\n' ∉ name.toList := by
  obtain ⟨before, after, hquote⟩ := exists_quote_of_includeName? h
  intro hmem
  apply (Text.isLine_iff.mp hline).2
  rw [hquote, List.dropLast_append_of_ne_nil (List.cons_ne_nil _ _)]
  exact List.mem_append_left _ (List.mem_append_right _ hmem)

theorem not_isPragmaOnce_of_includeName?
    {line name : String} (h : includeName? line = some name) :
    isPragmaOnce line = false := by
  unfold includeName? at h
  cases hstart : (directive? line).bind (after? "include".toList) with
  | none =>
      rw [hstart] at h
      cases h
  | some rest =>
      obtain ⟨cs, hdirective, hinclude⟩ := Option.bind_eq_some_iff.mp hstart
      rw [isPragmaOnce, hdirective, Option.bind_some,
        after?_pragma_of_after?_include hinclude]
      rfl

/-! ## Remarks -/

theorem toList_remark (kind : Remark) (name : String) :
    ∃ rest, (Piece.remark kind name).text.toList = '/' :: rest := by
  refine ⟨"**** ".toList ++ (kind.wording ++ " " ++ name ++ " ****/\n").toList, ?_⟩
  simp [Piece.text]

theorem directive?_remark (kind : Remark) (name : String) :
    directive? (Piece.remark kind name).text = none := by
  obtain ⟨rest, hrest⟩ := toList_remark kind name
  have hdrop : Text.dropBlanks ('/' :: rest) = '/' :: rest :=
    List.dropWhile_cons_of_neg (by decide)
  have hmark : after? ['#'] ('/' :: rest) = none := if_neg (by decide)
  rw [directive?, hrest, hdrop, hmark]
  rfl

theorem isPragmaOnce_remark (kind : Remark) (name : String) :
    isPragmaOnce (Piece.remark kind name).text = false := by
  rw [isPragmaOnce, directive?_remark]
  rfl

theorem includeName?_remark (kind : Remark) (name : String) :
    includeName? (Piece.remark kind name).text = none := by
  rw [includeName?, directive?_remark]
  rfl

theorem isLine_remark {name : String} (hname : '\n' ∉ name.toList) (kind : Remark) :
    Text.IsLine (Piece.remark kind name).text := by
  have hwording : '\n' ∉ kind.wording.toList := by cases kind <;> decide
  have hbody : '\n' ∉ ("/**** " ++ kind.wording ++ " " ++ name ++ " ****/").toList := by
    simp [hwording, hname]
  have hend : " ****/\n" = " ****/" ++ "\n" := by decide
  have htext : (Piece.remark kind name).text =
      "/**** " ++ kind.wording ++ " " ++ name ++ " ****/" ++ "\n" := by
    rw [Piece.text, hend]
    simp only [String.append_assoc]
  rw [htext]
  exact Text.isLine_append_newline hbody

end CrossGen.Combine
