import CrossGen.Proofs.Combine.FirstVisit

/-!
# The rows of the combined text

A listing tells what the combined text is made of, and this module tells it line by line.  A row is
a remark, a line of a file, or what is left of an include of an excluded file.  The lines of the
combined text are those of the rows of its listing, one row after the other, which says at once that
no two of them are run together: not where a file ends without a newline, nor where it is empty, nor
where its last line is dropped.
-/

namespace CrossGen.Combine

/-! ## Lines with their end -/

theorem isLine_terminated {line : String} (h : Text.IsLine line) :
    Text.IsLine (terminated line) := by
  unfold terminated
  split
  · exact h
  · next hopen =>
    obtain ⟨hne, hbefore⟩ := Text.isLine_iff.mp h
    apply Text.isLine_append_newline
    intro hmem
    rw [← List.dropLast_append_getLast hne] at hmem
    rcases List.mem_append.mp hmem with hmem | hlast
    · exact hbefore hmem
    · apply hopen
      right
      rw [Text.endsLine_iff]
      refine ⟨line.toList.dropLast, ?_⟩
      rw [List.mem_singleton.mp hlast, List.dropLast_append_getLast]

theorem includeName?_terminated (line : String) :
    includeName? (terminated line) = includeName? line := by
  unfold terminated
  split
  · rfl
  · exact includeName?_append_newline line

theorem isPragmaOnce_terminated (line : String) :
    isPragmaOnce (terminated line) = isPragmaOnce line := by
  unfold terminated
  split
  · rfl
  · exact isPragmaOnce_append_newline line

/-! ## Texts in their place -/

/-- A text of a file in its place: that of the input stands as it is, and that of any other file has
its last line ended. -/
def placed (input file : Location) (text : String) : String :=
  if file = input then text else terminated text

section Placed

variable {input file : Location}

theorem placed_input (input : Location) (text : String) : placed input input text = text :=
  if_pos rfl

theorem placed_of_ne (h : file ≠ input) (text : String) :
    placed input file text = terminated text :=
  if_neg h

theorem placed_empty (input file : Location) : placed input file "" = "" := by
  unfold placed
  split
  · rfl
  · exact terminated_empty

theorem placed_append {text : String} (h : text = "" ∨ Text.endsLine text = true)
    (input file : Location) (last : String) :
    placed input file (text ++ last) = text ++ placed input file last := by
  unfold placed
  split
  · rfl
  · exact terminated_append h

theorem placed_of_endsLine {line : String} (h : Text.endsLine line = true)
    (input file : Location) : placed input file line = line := by
  unfold placed
  split
  · rfl
  · exact terminated_of_endsLine h

theorem isLine_placed {line : String} (h : Text.IsLine line) (input file : Location) :
    Text.IsLine (placed input file line) := by
  unfold placed
  split
  · exact h
  · exact isLine_terminated h

theorem includeName?_placed (input file : Location) (line : String) :
    includeName? (placed input file line) = includeName? line := by
  unfold placed
  split
  · rfl
  · exact includeName?_terminated line

theorem isPragmaOnce_placed (input file : Location) (line : String) :
    isPragmaOnce (placed input file line) = isPragmaOnce line := by
  unfold placed
  split
  · rfl
  · exact isPragmaOnce_terminated line

theorem lines_placed_remark_append {name : String} (hname : '\n' ∉ name.toList) (kind : Remark)
    (later : String) :
    Text.lines (placed input file ((Piece.remark kind name).text ++ later)) =
      (Piece.remark kind name).text :: Text.lines (placed input file later) := by
  have hends : (Piece.remark kind name).text = "" ∨
      Text.endsLine (Piece.remark kind name).text = true :=
    Or.inr (Progress.endsLine_remark kind name)
  rw [placed_append hends, Text.lines_append hends, isLine_remark hname kind, List.singleton_append]

theorem lines_placed_terminated_append (text later : String) :
    Text.lines (placed input file (terminated text ++ later)) =
      Text.lines (terminated text) ++ Text.lines (placed input file later) := by
  have hends := terminated_eq_empty_or_endsLine text
  rw [placed_append hends, Text.lines_append hends]

end Placed

/-! ## Rows -/

/-- What a part of the combined text stands for: a remark, a line of a file, or an include of an
excluded file. -/
inductive Row where
  | remark (kind : Remark) (name : String)
  | source (file : Location) (line : String)
  | excluded (file : Location) (line name : String)
deriving DecidableEq, Repr

/-- The lines of a row.  Only what is left of an include of an excluded file depends on
`keepExcluded`. -/
def Row.lines (input : Location) (keepExcluded : Bool) : Row → List String
  | remark kind name => [(Piece.remark kind name).text]
  | source file line => [placed input file line]
  | excluded _ line name =>
      if keepExcluded = true then [(Piece.remark .kept name).text, terminated line]
      else [(Piece.remark .skipped name).text]

/-- The rows that stand for the listed lines of `file`. -/
def Listing.rows (file : Location) : Listing → List Row
  | done => []
  | source line rest =>
      if isPragmaOnce line = true then rest.rows file else .source file line :: rest.rows file
  | excluded line name _ rest => .excluded file line name :: rest.rows file
  | repeated _ name _ rest => .remark .skipped name :: rest.rows file
  | inlined _ name loc body rest =>
      .remark .start name :: (body.rows loc ++ .remark .finish name :: rest.rows file)

variable {rules : Rules} {file : Location} {lines content : List String} {listing : Listing}

/-- The text that a listing leaves of a file is cut into the lines of its rows. -/
theorem lines_placed_render
    (hlisting : Describes rules file lines listing) (hlines : Text.Lined lines)
    {input : Location} (hinput : input ∉ listing.files) (keepExcluded : Bool) :
    Text.lines (placed input file (listing.render keepExcluded)) =
      (listing.rows file).flatMap (Row.lines input keepExcluded) := by
  induction hlisting with
  | done =>
      rw [Listing.render, placed_empty]
      rfl
  | @source file line lines rest htarget hrest ih =>
      obtain ⟨hline, hlater, hends⟩ := hlines.head
      rw [Listing.render, Listing.rows]
      by_cases hpragma : isPragmaOnce line = true
      · rw [if_pos hpragma, if_pos hpragma, String.empty_append]
        exact ih hlater hinput
      · rw [if_neg hpragma, if_neg hpragma, List.flatMap_cons]
        rcases hends with rfl | hends
        · cases hrest
          rw [Listing.render, String.append_empty, isLine_placed hline]
          rfl
        · rw [placed_append (Or.inr hends), Text.lines_append (Or.inr hends), hline,
            ih hlater hinput, Row.lines, placed_of_endsLine hends]
  | @excluded file loc line name lines rest htarget hexcluded hrest ih =>
      obtain ⟨hline, hlater, -⟩ := hlines.head
      have hname := newline_not_mem_of_includeName? hline (target?_eq_some_iff.mp htarget).1
      have hrows := ih hlater hinput
      rw [Listing.render, Listing.rows, List.flatMap_cons, Row.lines]
      split
      · rw [String.append_assoc, lines_placed_remark_append hname, lines_placed_terminated_append,
          isLine_terminated hline, hrows]
        rfl
      · rw [lines_placed_remark_append hname, hrows]
        rfl
  | @repeated file loc line name lines rest htarget hexcluded hrest ih =>
      obtain ⟨hline, hlater, -⟩ := hlines.head
      have hname := newline_not_mem_of_includeName? hline (target?_eq_some_iff.mp htarget).1
      rw [Listing.render, lines_placed_remark_append hname, ih hlater hinput]
      rfl
  | @inlined file loc line name lines content body rest htarget hexcluded hread hbody hrest
      ihbody ihrest =>
      obtain ⟨hline, hlater, -⟩ := hlines.head
      obtain ⟨bytes, text, -, -, rfl⟩ := readLines_eq_ok_iff.mp hread
      have hname := newline_not_mem_of_includeName? hline (target?_eq_some_iff.mp htarget).1
      obtain ⟨hloc, hfiles⟩ := List.ne_and_not_mem_of_not_mem_cons hinput
      obtain ⟨hinner, hbelow⟩ := not_or.mp (mt List.mem_append.mpr hfiles)
      have hbodyRows := ihbody (Text.lined_lines text) hinner
      -- The input is not inlined, so that the lines of the body are ended.
      rw [placed_of_ne (Ne.symm hloc)] at hbodyRows
      rw [Listing.render, Listing.rows, String.append_assoc, String.append_assoc,
        lines_placed_remark_append hname, lines_placed_terminated_append, hbodyRows,
        lines_placed_remark_append hname, ihrest hlater hbelow, List.flatMap_cons,
        List.flatMap_append, List.flatMap_cons]
      rfl

/-! ## Where rows come from -/

def HasLine (files : FileSystem) (file : Location) (line : String) : Prop :=
  ∃ lines, readLines files file = .ok lines ∧ line ∈ lines

/-- The row that a line leaves by itself, if it includes nothing that can be found and does not ask
for its file to be included once, or if it includes an excluded file. -/
inductive Row.Own (rules : Rules) (file : Location) (line : String) : Row → Prop
  | source (htarget : rules.target? file.parent line = none) (hkept : isPragmaOnce line = false) :
      Own rules file line (.source file line)
  | excluded {name : String} {loc : Location}
      (htarget : rules.target? file.parent line = some (name, loc))
      (hexcluded : loc ∈ rules.excluded) :
      Own rules file line (.excluded file line name)

/-- A row comes from a line of one of the given files: the line leaves it by itself, or the row is a
remark about the file that the line includes. -/
inductive Row.From (rules : Rules) (opened : List Location) : Row → Prop
  | own {file : Location} {line : String} {row : Row}
      (hfile : file ∈ opened) (hline : HasLine rules.files file line)
      (hown : row.Own rules file line) : From rules opened row
  | remark {file loc : Location} {line name : String} (kind : Remark)
      (hfile : file ∈ opened) (hline : HasLine rules.files file line)
      (htarget : rules.target? file.parent line = some (name, loc))
      (hexcluded : loc ∉ rules.excluded) : From rules opened (.remark kind name)

theorem Row.From.mono
    {opened others : List Location} {row : Row} (h : row.From rules opened)
    (hsub : opened ⊆ others) : row.From rules others := by
  cases h with
  | own hfile hline hown => exact .own (hsub hfile) hline hown
  | remark kind hfile hline htarget hexcluded =>
      exact .remark kind (hsub hfile) hline htarget hexcluded

/-- The rows of a listing come from the file and from those that are inlined. -/
theorem from_of_mem_rows
    (hlisting : Describes rules file lines listing)
    (hlines : ∀ line ∈ lines, HasLine rules.files file line) :
    ∀ row ∈ listing.rows file, row.From rules (file :: listing.files) := by
  induction hlisting with
  | done => exact fun row hrow => absurd hrow List.not_mem_nil
  | source htarget hrest ih =>
      obtain ⟨hline, hothers⟩ := List.forall_mem_cons.mp hlines
      rw [Listing.rows]
      split
      · exact ih hothers
      · next hpragma =>
        refine List.forall_mem_cons.mpr ⟨?_, ih hothers⟩
        exact .own List.mem_cons_self hline (.source htarget (by simpa using hpragma))
  | excluded htarget hexcluded hrest ih =>
      obtain ⟨hline, hothers⟩ := List.forall_mem_cons.mp hlines
      refine List.forall_mem_cons.mpr ⟨?_, ih hothers⟩
      exact .own List.mem_cons_self hline (.excluded htarget hexcluded)
  | repeated htarget hexcluded hrest ih =>
      obtain ⟨hline, hothers⟩ := List.forall_mem_cons.mp hlines
      refine List.forall_mem_cons.mpr ⟨?_, ih hothers⟩
      exact .remark .skipped List.mem_cons_self hline htarget hexcluded
  | @inlined file loc line name lines content body rest htarget hexcluded hread hbody hrest
      ihbody ihrest =>
      obtain ⟨hline, hothers⟩ := List.forall_mem_cons.mp hlines
      have hremark (kind : Remark) :
          Row.From rules (file :: loc :: (body.files ++ rest.files)) (.remark kind name) :=
        .remark kind List.mem_cons_self hline htarget hexcluded
      have hbodyFiles : loc :: body.files ⊆ file :: loc :: (body.files ++ rest.files) :=
        List.subset_cons_of_subset _ (List.cons_subset_cons _ (List.subset_append_left _ _))
      have hrestFiles : file :: rest.files ⊆ file :: loc :: (body.files ++ rest.files) :=
        List.cons_subset_cons _ (List.subset_cons_of_subset _ (List.subset_append_right _ _))
      have hinner := ihbody fun inner hinner => ⟨content, hread, hinner⟩
      intro row hrow
      rw [Listing.rows, List.mem_cons, List.mem_append, List.mem_cons] at hrow
      rcases hrow with rfl | hrow | rfl | hrow
      · exact hremark .start
      · exact (hinner row hrow).mono hbodyFiles
      · exact hremark .finish
      · exact (ihrest hothers row hrow).mono hrestFiles

/-- No row is missing that a listed line leaves by itself. -/
theorem mem_rows_of_own
    (hlisting : Describes rules file lines listing)
    {line : String} {row : Row} (hline : line ∈ lines) (hown : row.Own rules file line) :
    row ∈ listing.rows file := by
  induction hlisting with
  | done => cases hline
  | @source file first lines rest htarget hrest ih =>
      rw [Listing.rows]
      rcases List.mem_cons.mp hline with rfl | hline
      · cases hown with
        | source _ hkept =>
            rw [if_neg (by simp [hkept])]
            exact List.mem_cons_self
        | excluded htarget' => simp [htarget] at htarget'
      · have hmem := ih hline hown
        split
        · exact hmem
        · exact List.mem_cons_of_mem _ hmem
  | excluded htarget hexcluded hrest ih =>
      rcases List.mem_cons.mp hline with rfl | hline
      · cases hown with
        | source htarget' => simp [htarget] at htarget'
        | excluded htarget' =>
            obtain ⟨rfl, rfl⟩ := target?_inj htarget htarget'
            exact List.mem_cons_self
      · exact List.mem_cons_of_mem _ (ih hline hown)
  | repeated htarget hexcluded hrest ih =>
      rcases List.mem_cons.mp hline with rfl | hline
      · cases hown with
        | source htarget' => simp [htarget] at htarget'
        | excluded htarget' hexcluded' =>
            obtain ⟨rfl, rfl⟩ := target?_inj htarget htarget'
            exact absurd hexcluded' hexcluded
      · exact List.mem_cons_of_mem _ (ih hline hown)
  | inlined htarget hexcluded hread hbody hrest ihbody ihrest =>
      rcases List.mem_cons.mp hline with rfl | hline
      · cases hown with
        | source htarget' => simp [htarget] at htarget'
        | excluded htarget' hexcluded' =>
            obtain ⟨rfl, rfl⟩ := target?_inj htarget htarget'
            exact absurd hexcluded' hexcluded
      · exact List.mem_cons_of_mem _
          (List.mem_append_right _ (List.mem_cons_of_mem _ (ihrest hline hown)))

/-- Nor one that a line of an inlined file leaves. -/
theorem mem_rows_of_own_of_mem_files
    (hlisting : Describes rules file lines listing)
    {inner : Location} {line : String} {row : Row} (hinner : inner ∈ listing.files)
    (hline : HasLine rules.files inner line) (hown : row.Own rules inner line) :
    row ∈ listing.rows file := by
  induction hlisting with
  | done => cases hinner
  | source htarget hrest ih =>
      have hmem := ih hinner
      rw [Listing.rows]
      split
      · exact hmem
      · exact List.mem_cons_of_mem _ hmem
  | excluded htarget hexcluded hrest ih => exact List.mem_cons_of_mem _ (ih hinner)
  | repeated htarget hexcluded hrest ih => exact List.mem_cons_of_mem _ (ih hinner)
  | inlined htarget hexcluded hread hbody hrest ihbody ihrest =>
      refine List.mem_cons_of_mem _ (List.mem_append.mpr ?_)
      rcases List.mem_cons.mp hinner with rfl | hinner
      · obtain ⟨content, hread', hline⟩ := hline
        obtain rfl := Except.ok.inj (hread.symm.trans hread')
        exact Or.inl (mem_rows_of_own hbody hline hown)
      · rcases List.mem_append.mp hinner with hinner | hinner
        · exact Or.inl (ihbody hinner)
        · exact Or.inr (List.mem_cons_of_mem _ (ihrest hinner))

/-- The lines of a combined text and where they come from: a remark about a file that a line
includes, a line that includes nothing that can be found, in its place, or a line whose include is
kept. -/
inductive CombinedLine (rules : Rules) (input : Location) (opened : List Location) : String → Prop
  | remark {file loc : Location} {line name : String} (kind : Remark)
      (hfile : file ∈ opened) (hline : HasLine rules.files file line)
      (htarget : rules.target? file.parent line = some (name, loc)) :
      CombinedLine rules input opened (Piece.remark kind name).text
  | source {file : Location} {line : String}
      (hfile : file ∈ opened) (hline : HasLine rules.files file line)
      (htarget : rules.target? file.parent line = none) (hkept : isPragmaOnce line = false) :
      CombinedLine rules input opened (placed input file line)
  | kept {file loc : Location} {line name : String} (hkeeps : rules.keepExcluded = true)
      (hfile : file ∈ opened) (hline : HasLine rules.files file line)
      (htarget : rules.target? file.parent line = some (name, loc)) :
      CombinedLine rules input opened (terminated line)

theorem Row.From.combinedLine
    {opened : List Location} {row : Row} (h : row.From rules opened) {input : Location}
    {text : String} (htext : text ∈ row.lines input rules.keepExcluded) :
    CombinedLine rules input opened text := by
  cases h with
  | remark kind hfile hline htarget hexcluded =>
      obtain rfl := List.mem_singleton.mp htext
      exact .remark kind hfile hline htarget
  | own hfile hline hown =>
      cases hown with
      | source htarget hkept =>
          obtain rfl := List.mem_singleton.mp htext
          exact .source hfile hline htarget hkept
      | excluded htarget hexcluded =>
          rw [Row.lines] at htext
          split at htext
          · next hkeeps =>
            rcases List.mem_cons.mp htext with rfl | htext
            · exact .remark .kept hfile hline htarget
            · obtain rfl := List.mem_singleton.mp htext
              exact .kept hkeeps hfile hline htarget
          · obtain rfl := List.mem_singleton.mp htext
            exact .remark .skipped hfile hline htarget

theorem CombinedLine.isPragmaOnce_eq_false
    {input : Location} {opened : List Location} {text : String}
    (h : CombinedLine rules input opened text) : isPragmaOnce text = false := by
  cases h with
  | remark kind => exact isPragmaOnce_remark kind _
  | source hfile hline htarget hkept => rw [isPragmaOnce_placed, hkept]
  | kept hkeeps hfile hline htarget =>
      rw [isPragmaOnce_terminated,
        not_isPragmaOnce_of_includeName? (target?_eq_some_iff.mp htarget).1]

/-! ## The rows of first visits -/

namespace FirstVisits

variable {start : Location}

theorem from_of_mem_rows (h : FirstVisits rules start listing) {row : Row}
    (hrow : row ∈ listing.rows start) : row.From rules (start :: listing.files) := by
  obtain ⟨lines, hread, hlisting⟩ := h.describes
  exact Combine.from_of_mem_rows hlisting (fun line hline => ⟨lines, hread, hline⟩) row hrow

/-- A row that a line leaves by itself is there for every such line of every file that is opened. -/
theorem mem_rows_of_own (h : FirstVisits rules start listing) {row : Row} {line : String}
    (hfile : file ∈ start :: listing.files) (hline : HasLine rules.files file line)
    (hown : row.Own rules file line) : row ∈ listing.rows start := by
  obtain ⟨lines, hread, hlisting⟩ := h.describes
  rcases List.mem_cons.mp hfile with rfl | hfile
  · obtain ⟨lines', hread', hline⟩ := hline
    obtain rfl := Except.ok.inj (hread.symm.trans hread')
    exact Combine.mem_rows_of_own hlisting hline hown
  · exact mem_rows_of_own_of_mem_files hlisting hfile hline hown

/-- The excluded includes among the rows are those that are met in the files that are opened. -/
theorem excluded_mem_rows_iff (h : FirstVisits rules start listing) {line name : String} :
    .excluded file line name ∈ listing.rows start ↔
      file ∈ start :: listing.files ∧ HasLine rules.files file line ∧
        ∃ loc ∈ rules.excluded, rules.target? file.parent line = some (name, loc) := by
  constructor
  · intro hrow
    cases h.from_of_mem_rows hrow with
    | own hfile hline hown =>
        cases hown with
        | excluded htarget hexcluded => exact ⟨hfile, hline, _, hexcluded, htarget⟩
  · rintro ⟨hfile, hline, loc, hexcluded, htarget⟩
    exact h.mem_rows_of_own hfile hline (.excluded htarget hexcluded)

theorem lines_text_play (h : FirstVisits rules start listing) :
    Text.lines (listing.play rules ⟨[start], #[]⟩).text =
      (listing.rows start).flatMap (Row.lines start rules.keepExcluded) := by
  obtain ⟨lines, hread, hlisting⟩ := h.describes
  obtain ⟨bytes, text, -, -, rfl⟩ := readLines_eq_ok_iff.mp hread
  have hstart : start ∉ listing.files := (List.nodup_cons.mp h.nodup).1
  rw [h.text_play, ← lines_placed_render hlisting (Text.lined_lines text) hstart, placed_input]

end FirstVisits

/-- The text that combining gives is cut into the lines of the rows of its first visits, and these
come from the files that were opened. -/
theorem exists_rows_of_combine
    {input : Path} {progress : Progress} (h : combine rules input = .ok progress) :
    ∃ start listing, rules.files.locate rules.here input = .ok start ∧
      FirstVisits rules start listing ∧
      Text.lines progress.text =
        (listing.rows start).flatMap (Row.lines start rules.keepExcluded) ∧
      ∀ line ∈ Text.lines progress.text, CombinedLine rules start progress.opened line := by
  obtain ⟨start, listing, hstart, hvisits, rfl⟩ := combine_eq_ok_iff.mp h
  have hopened : start :: listing.files ⊆ (listing.play rules ⟨[start], #[]⟩).opened := by
    intro file hfile
    simpa [opened_play, or_comm] using hfile
  refine ⟨start, listing, hstart, hvisits, hvisits.lines_text_play, ?_⟩
  intro line hline
  rw [hvisits.lines_text_play] at hline
  obtain ⟨row, hrow, hline⟩ := List.mem_flatMap.mp hline
  exact ((hvisits.from_of_mem_rows hrow).mono hopened).combinedLine hline

end CrossGen.Combine
