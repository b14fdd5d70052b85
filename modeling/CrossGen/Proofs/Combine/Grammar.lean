import CrossGen.Proofs.Combine.Directive

/-!
# The grammar of directives

Which lines are directives is said by a grammar: blanks, the mark, blanks, a keyword, blanks, and then
what the keyword asks for, behind which anything may stand.  The readers of directives accept exactly
the lines of this grammar, and from an include they read exactly the name that stands between its first
two quotes.
-/

namespace CrossGen.Combine

/-! ## Lines of the grammar -/

def Blanks (text : String) : Prop :=
  ∀ c ∈ text.toList, Text.isBlank c = true

/-- The lines that include the file of the given name. -/
inductive IncludeLine (name : String) : String → Prop
  | intro {lead middle gap rest : String}
      (hlead : Blanks lead) (hmiddle : Blanks middle) (hgap : Blanks gap)
      (hname : name ≠ "") (hquote : '"' ∉ name.toList) :
      IncludeLine name
        (lead ++ "#" ++ middle ++ "include" ++ gap ++ "\"" ++ name ++ "\"" ++ rest)

/-- The lines that ask for their file to be included only once. -/
inductive OnceLine : String → Prop
  | intro {lead middle gap rest : String}
      (hlead : Blanks lead) (hmiddle : Blanks middle) (hgap : Blanks gap) :
      OnceLine (lead ++ "#" ++ middle ++ "pragma" ++ gap ++ "once" ++ rest)

/-! ## Words behind blanks -/

theorem after?_eq_some_iff {start cs rest : List Char} :
    after? start cs = some rest ↔ cs = start ++ rest := by
  constructor
  · exact eq_append_of_after?
  · rintro rfl
    induction start with
    | nil => rfl
    | cons a start ih =>
        rw [List.cons_append, after?, if_pos rfl]
        exact ih

/-- What is left behind the blanks begins with a character that is none, whatever the blanks were. -/
theorem dropBlanks_eq_cons_iff {cs rest : List Char} {c : Char} (hc : Text.isBlank c = false) :
    Text.dropBlanks cs = c :: rest ↔ ∃ blanks, Blanks blanks ∧ cs = blanks.toList ++ c :: rest := by
  unfold Text.dropBlanks
  constructor
  · intro h
    refine ⟨String.ofList (cs.takeWhile Text.isBlank), ?_, ?_⟩
    · intro d hd
      rw [String.toList_ofList] at hd
      exact List.mem_takeWhile_imp hd
    · rw [String.toList_ofList, ← h, List.takeWhile_append_dropWhile]
  · rintro ⟨blanks, hblanks, rfl⟩
    rw [List.dropWhile_append_of_pos hblanks, List.dropWhile_cons_of_neg (by simp [hc])]

theorem word?_eq_some_iff
    {word : String} {cs rest : List Char}
    (hword : word.toList.head?.map Text.isBlank = some false) :
    word? word cs = some rest ↔
      ∃ blanks, Blanks blanks ∧ cs = blanks.toList ++ word.toList ++ rest := by
  cases hlist : word.toList with
  | nil =>
      rw [hlist] at hword
      cases hword
  | cons c letters =>
      rw [hlist] at hword
      have hc : Text.isBlank c = false := Option.some.inj hword
      rw [word?, hlist, after?_eq_some_iff, List.cons_append, dropBlanks_eq_cons_iff hc]
      simp only [List.append_assoc, List.cons_append]

theorem bind_word?_eq_some_iff
    {read : Option (List Char)} {word : String} {rest : List Char}
    (hword : word.toList.head?.map Text.isBlank = some false) :
    read.bind (word? word) = some rest ↔
      ∃ blanks, Blanks blanks ∧ read = some (blanks.toList ++ word.toList ++ rest) := by
  rw [Option.bind_eq_some_iff]
  simp only [word?_eq_some_iff hword]
  constructor
  · rintro ⟨cs, hread, blanks, hblanks, rfl⟩
    exact ⟨blanks, hblanks, hread⟩
  · rintro ⟨blanks, hblanks, hread⟩
    exact ⟨_, hread, blanks, hblanks, rfl⟩

/-- What stands behind the mark, a keyword and one more word, each of which may have blanks in front. -/
theorem directive_words_iff
    {line keyword word : String} {rest : List Char}
    (hkeyword : keyword.toList.head?.map Text.isBlank = some false)
    (hword : word.toList.head?.map Text.isBlank = some false) :
    ((word? "#" line.toList).bind (word? keyword)).bind (word? word) = some rest ↔
      ∃ lead middle gap, Blanks lead ∧ Blanks middle ∧ Blanks gap ∧
        line = lead ++ "#" ++ middle ++ keyword ++ gap ++ word ++ String.ofList rest := by
  have hmark : "#".toList.head?.map Text.isBlank = some false := by decide
  have htext (lead middle gap : String) :
      line.toList = lead.toList ++ "#".toList ++
          (middle.toList ++ keyword.toList ++ (gap.toList ++ word.toList ++ rest)) ↔
        line = lead ++ "#" ++ middle ++ keyword ++ gap ++ word ++ String.ofList rest := by
    rw [← String.toList_inj]
    simp only [String.toList_append, String.toList_ofList, List.append_assoc]
  rw [bind_word?_eq_some_iff hword]
  simp only [bind_word?_eq_some_iff hkeyword, word?_eq_some_iff hmark, htext]
  constructor
  · rintro ⟨gap, hgap, middle, hmiddle, lead, hlead, hline⟩
    exact ⟨lead, middle, gap, hlead, hmiddle, hgap, hline⟩
  · rintro ⟨lead, middle, gap, hlead, hmiddle, hgap, hline⟩
    exact ⟨gap, hgap, middle, hmiddle, lead, hlead, hline⟩

/-! ## What is read -/

theorem isPragmaOnce_iff {line : String} : isPragmaOnce line = true ↔ OnceLine line := by
  have hpragma : "pragma".toList.head?.map Text.isBlank = some false := by decide
  have honce : "once".toList.head?.map Text.isBlank = some false := by decide
  rw [isPragmaOnce_eq, Option.isSome_iff_exists]
  simp only [directive_words_iff hpragma honce]
  constructor
  · rintro ⟨rest, lead, middle, gap, hlead, hmiddle, hgap, rfl⟩
    exact .intro hlead hmiddle hgap
  · rintro @⟨lead, middle, gap, rest, hlead, hmiddle, hgap⟩
    exact ⟨rest.toList, lead, middle, gap, hlead, hmiddle, hgap, by rw [String.ofList_toList]⟩

theorem includeName?_eq_some_iff {line name : String} :
    includeName? line = some name ↔ IncludeLine name line := by
  have hinclude : "include".toList.head?.map Text.isBlank = some false := by decide
  have hopening : "\"".toList.head?.map Text.isBlank = some false := by decide
  have hquoted (after : List Char) :
      String.ofList (name.toList ++ '"' :: after) = name ++ "\"" ++ String.ofList after := by
    apply String.toList_inj.mp
    simp
  rw [includeName?_eq, Option.bind_eq_some_iff]
  simp only [directive_words_iff hinclude hopening, quotedName?_eq_some_iff]
  constructor
  · rintro ⟨quoted, ⟨lead, middle, gap, hlead, hmiddle, hgap, rfl⟩, hname, hquote, after, rfl⟩
    rw [hquoted, ← String.append_assoc, ← String.append_assoc]
    exact .intro hlead hmiddle hgap hname hquote
  · rintro @⟨lead, middle, gap, rest, hlead, hmiddle, hgap, hname, hquote⟩
    refine ⟨name.toList ++ '"' :: rest.toList, ⟨lead, middle, gap, hlead, hmiddle, hgap, ?_⟩,
      hname, hquote, rest.toList, rfl⟩
    rw [hquoted, String.ofList_toList, ← String.append_assoc, ← String.append_assoc]

/-- The readers of directives accept exactly the lines of their grammar, and no line is accepted by
both.  What they answer does not depend on whether a newline stands behind the line.  The name of an
include in a line of some text is a part of that line only. -/
theorem directives_follow_their_grammar :
    (∀ line name, includeName? line = some name ↔ IncludeLine name line) ∧
    (∀ line, isPragmaOnce line = true ↔ OnceLine line) ∧
    (∀ line name, ¬(includeName? line = some name ∧ isPragmaOnce line = true)) ∧
    (∀ line, includeName? (line ++ "\n") = includeName? line ∧
      isPragmaOnce (line ++ "\n") = isPragmaOnce line) ∧
    ∀ text, ∀ line ∈ Text.lines text, ∀ name, includeName? line = some name →
      '\n' ∉ name.toList := by
  refine ⟨fun line name => includeName?_eq_some_iff, fun line => isPragmaOnce_iff, ?_, ?_, ?_⟩
  · rintro line name ⟨hname, honce⟩
    rw [not_isPragmaOnce_of_includeName? hname] at honce
    cases honce
  · intro line
    exact ⟨includeName?_append_newline line, isPragmaOnce_append_newline line⟩
  · intro text line hline name hname
    have hlist := Text.toList_mem_of_mem_lines hline
    have hisLine : Text.IsLine (String.ofList line.toList) :=
      Text.isLine_of_mem_linesFrom List.not_mem_nil hlist
    rw [String.ofList_toList] at hisLine
    exact newline_not_mem_of_includeName? hisLine hname

/-- Two directives behind each other, with blanks of several kinds, further quotes behind the name and
further letters behind the last keyword.  The name is read from its own line. -/
theorem spaced_directives_are_read :
    Text.lines "\u3000#\tinclude\"a b.h\" \"c\"\n # pragma\u00a0oncemore" =
        ["\u3000#\tinclude\"a b.h\" \"c\"\n", " # pragma\u00a0oncemore"] ∧
      includeName? "\u3000#\tinclude\"a b.h\" \"c\"\n" = some "a b.h" ∧
      IncludeLine "a b.h" "\u3000#\tinclude\"a b.h\" \"c\"" ∧
      '\n' ∉ "a b.h".toList ∧ OnceLine " # pragma\u00a0oncemore" := by
  obtain ⟨hname, honce, -, hend, hinside⟩ := directives_follow_their_grammar
  have hlines : Text.lines "\u3000#\tinclude\"a b.h\" \"c\"\n # pragma\u00a0oncemore" =
      ["\u3000#\tinclude\"a b.h\" \"c\"\n", " # pragma\u00a0oncemore"] := by
    decide
  have hread : includeName? "\u3000#\tinclude\"a b.h\" \"c\"\n" = some "a b.h" := by
    decide
  have hopen : includeName? "\u3000#\tinclude\"a b.h\" \"c\"" = some "a b.h" :=
    (hend "\u3000#\tinclude\"a b.h\" \"c\"").1.symm.trans hread
  refine ⟨hlines, hread, (hname _ _).mp hopen, ?_, (honce _).mp (by decide)⟩
  exact hinside _ _ (by rw [hlines]; exact List.mem_cons_self) _ hread

end CrossGen.Combine
