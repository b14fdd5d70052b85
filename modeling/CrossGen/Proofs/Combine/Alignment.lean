import CrossGen.Proofs.Combine.Entering
import CrossGen.Proofs.Combine.Recombining

/-!
# Lines stay whole

Whenever combining turns to a line of a file, the text so far is empty or ends with a newline, so
that no line of one file is run together with a line of another file or with a remark.  What carries
this over all moves is a condition on the tasks: a line without its end has no line behind it, but
the end of its file or nothing at all.
-/

namespace CrossGen.Combine

variable {rules : Rules} {input : Path} {phase next : Phase} {log entered : List Location}

/-! ## Where the text ends -/

/-- The text so far is empty or ends with a newline. -/
def Progress.AtLineStart (progress : Progress) : Prop :=
  progress.text = "" ∨ Text.endsLine progress.text = true

theorem atLineStart_of_text_eq_append
    {progress : Progress} {before last : String} (htext : progress.text = before ++ last)
    (hlast : Text.endsLine last = true) : progress.AtLineStart := by
  have hne : last ≠ "" := by
    rintro rfl
    cases hlast
  right
  rw [htext, endsLine_append hne]
  exact hlast

theorem Progress.atLineStart_remark (progress : Progress) (kind : Remark) (name : String) :
    (progress.remark kind name).AtLineStart :=
  atLineStart_of_text_eq_append (progress.text_remark kind name)
    (Progress.endsLine_remark kind name)

theorem Progress.atLineStart_copySource
    {progress : Progress} (h : progress.AtLineStart) {line : String}
    (hends : Text.endsLine line = true) : (progress.copySource line).AtLineStart := by
  unfold copySource
  split
  · exact h
  · exact atLineStart_of_text_eq_append (progress.text_copy line) hends

theorem endsLine_passedText (rules : Rules) {line : String} (hline : line ≠ "") (name : String)
    (loc : Location) : Text.endsLine (passedText rules line name loc) = true := by
  unfold passedText
  split
  · have hne : terminated line ≠ "" := by
      unfold terminated
      split
      · exact hline
      · simp
    rw [endsLine_append hne]
    exact (terminated_eq_empty_or_endsLine line).resolve_left hne
  · exact Progress.endsLine_remark .skipped name

theorem atLineStart_passOver
    {progress : Progress} (h : progress.HasNoEmptyLine) {line : String} (hline : line ≠ "")
    (name : String) (loc : Location) : (passOver rules progress line name loc).AtLineStart :=
  atLineStart_of_text_eq_append (text_passOver rules name loc h hline)
    (endsLine_passedText rules hline name loc)

/-! ## Tasks -/

def StartsLine : List Task → Prop
  | .line .. :: _ => True
  | _ => False

/-- The tasks hold lines of files, of which none is empty, and none that lacks its end has another
line behind it. -/
inductive Stacked : List Task → Prop
  | nil : Stacked []
  | finish {name : String} {rest : List Task} (hrest : Stacked rest) :
      Stacked (.finish name :: rest)
  | line {dir : Location} {line : String} {rest : List Task} (hline : line ≠ "")
      (hends : StartsLine rest → Text.endsLine line = true) (hrest : Stacked rest) :
      Stacked (.line dir line :: rest)

theorem stacked_fileTasks_append
    {lines : List String} (hlines : Text.Lined lines) (hne : ∀ line ∈ lines, line ≠ "")
    {rest : List Task} (hrest : Stacked rest) (hopen : ¬StartsLine rest) (loc : Location) :
    Stacked (fileTasks loc lines ++ rest) := by
  induction lines with
  | nil => exact hrest
  | cons line lines ih =>
      obtain ⟨-, hlater, hends⟩ := hlines.head
      obtain ⟨hline, hothers⟩ := List.forall_mem_cons.mp hne
      rw [fileTasks_cons, List.cons_append]
      refine .line hline ?_ (ih hlater hothers)
      intro hstarts
      rcases hends with rfl | hends
      · exact absurd hstarts hopen
      · exact hends

/-- What every move preserves: the tasks are stacked, and if the next one is a line, then the text
is where a line starts. -/
inductive Phase.Aligned : Phase → Prop
  | starting : Aligned .starting
  | working {tasks : List Task} {progress : Progress} (htasks : Stacked tasks)
      (hpieces : progress.HasNoEmptyLine) (hstart : StartsLine tasks → progress.AtLineStart) :
      Aligned (.working tasks progress)
  | failed {depth : Nat} {failure : Failure} : Aligned (.failed depth failure)

/-- A file is entered where a line starts, and no line stands right behind it. -/
theorem Entrance.aligned
    {loc : Location} {rest : List Task} {progress : Progress}
    (entrance : Entrance rules input phase loc rest progress) (h : phase.Aligned) :
    Stacked rest ∧ ¬StartsLine rest ∧ progress.HasNoEmptyLine ∧ progress.AtLineStart := by
  cases entrance with
  | input hlocate =>
      exact ⟨.nil, id, by simp [Progress.HasNoEmptyLine], Or.inl (by simp [Progress.text])⟩
  | @inclusion dir loc line name rest progress htarget hexcluded hnew =>
      cases h with
      | working htasks hpieces hstart =>
          cases htasks with
          | line hline hends hrest =>
              exact ⟨.finish hrest, id, Progress.hasNoEmptyLine_enter hpieces loc name,
                progress.atLineStart_remark .start name⟩

theorem Step.aligned (step : Step rules input phase entered next) (h : phase.Aligned) :
    next.Aligned := by
  cases step with
  | lost hlocate => exact .failed
  | enter entrance hread =>
      obtain ⟨hrest, hopen, hpieces, hstart⟩ := entrance.aligned h
      have hne := ne_empty_of_readLines hread
      obtain ⟨bytes, text, -, -, rfl⟩ := readLines_eq_ok_iff.mp hread
      exact .working (stacked_fileTasks_append (Text.lined_lines text) hne hrest hopen _) hpieces
        fun _ => hstart
  | unreadable entrance hread => exact .failed
  | finish =>
      cases h with
      | working htasks hpieces hstart =>
          cases htasks with
          | finish hrest =>
              exact .working hrest
                (Progress.hasNoEmptyLine_remark (Progress.hasNoEmptyLine_endLine hpieces) _ _)
                fun _ => Progress.atLineStart_remark _ _ _
  | source htarget =>
      cases h with
      | working htasks hpieces hstart =>
          cases htasks with
          | line hline hends hrest =>
              exact .working hrest (Progress.hasNoEmptyLine_copySource hpieces hline)
                fun hlater => Progress.atLineStart_copySource (hstart trivial) (hends hlater)
  | pass htarget hpass =>
      cases h with
      | working htasks hpieces hstart =>
          cases htasks with
          | line hline hends hrest =>
              exact .working hrest (hasNoEmptyLine_passOver rules _ _ hpieces hline)
                fun _ => atLineStart_passOver hpieces hline _ _

theorem Run.aligned (run : Run rules input log phase) : phase.Aligned := by
  induction run with
  | nil => exact .starting
  | snoc run step ih => exact step.aligned ih

theorem Run.atLineStart
    {dir : Location} {line : String} {rest : List Task} {progress : Progress}
    (run : Run rules input log (.working (.line dir line :: rest) progress)) :
    progress.AtLineStart := by
  cases run.aligned with
  | working htasks hpieces hstart => exact hstart trivial

/-! ## Whole lines -/

/-- The whole lines that a combined text is made of: a remark about a file that a line of an opened
file includes, a line of an opened file, ended by a newline, or the last line of the input as it
stands. -/
inductive Whole (rules : Rules) (start : Location) (opened : List Location) : String → Prop
  | remark {file loc : Location} {line name : String} (kind : Remark)
      (hfile : file ∈ opened) (hline : HasLine rules.files file line)
      (htarget : rules.target? file.parent line = some (name, loc)) :
      Whole rules start opened (Piece.remark kind name).text
  | line {file : Location} {line : String}
      (hfile : file ∈ opened) (hline : HasLine rules.files file line) :
      Whole rules start opened (terminated line)
  | last {before : List String} {line : String}
      (hread : readLines rules.files start = .ok (before ++ [line])) :
      Whole rules start opened line

variable {start : Location} {opened : List Location}

theorem whole_placed {file : Location} {line : String}
    (hfile : file ∈ opened) (hline : HasLine rules.files file line) :
    Whole rules start opened (placed start file line) := by
  by_cases hstart : file = start
  · subst hstart
    rw [placed_input]
    cases hends : Text.endsLine line with
    | true =>
        rw [← terminated_of_endsLine hends]
        exact .line hfile hline
    | false =>
        obtain ⟨lines, hread, hmem⟩ := hline
        obtain ⟨bytes, text, -, -, rfl⟩ := readLines_eq_ok_iff.mp hread
        obtain ⟨before, hbefore⟩ := (Text.lined_lines text).exists_eq_concat hmem hends
        exact .last (hread.trans (congrArg Except.ok hbefore))
  · rw [placed_of_ne hstart]
    exact .line hfile hline

theorem CombinedLine.whole {text : String} (h : CombinedLine rules start opened text) :
    Whole rules start opened text := by
  cases h with
  | remark kind hfile hline htarget => exact .remark kind hfile hline htarget
  | source hfile hline htarget hkept => exact whole_placed hfile hline
  | kept hkeeps hfile hline htarget => exact .line hfile hline

/-- Where excluded includes are not kept, the includes that are left lead nowhere. -/
theorem CombinedLine.exists_lost_include
    {text name : String} (h : CombinedLine rules start opened text)
    (hkeeps : rules.keepExcluded = false) (hname : includeName? text = some name) :
    ∃ file source, file ∈ opened ∧ HasLine rules.files file source ∧
      text = placed start file source ∧ rules.resolve (some file.parent) ⟨name⟩ = none := by
  cases h with
  | remark kind =>
      rw [includeName?_remark] at hname
      cases hname
  | @source file source hfile hline htarget hkept =>
      refine ⟨file, source, hfile, hline, rfl, ?_⟩
      rw [includeName?_placed] at hname
      simpa [Rules.target?, hname] using htarget
  | kept hkept =>
      rw [hkeeps] at hkept
      cases hkept

/-- No line is run together with another one.  Whenever combining turns to a line of a file, the
text so far is empty or ends with a newline.  The text that is combined is cut into the lines of the
rows of its first visits, one row after the other.  Every line is a whole remark or a whole line of
a file that was opened, ended by a newline unless it is the last line of the input; none of them
asks for its file to be included once; and if excluded includes are not kept, then each include
among them is a line of a file from which it leads nowhere. -/
theorem combined_lines_stay_whole
    (scope : Scope) (excludes : List Path) (keepExcluded : Bool) (input : Path) :
    (∀ log dir line rest progress,
      Run (.make scope excludes keepExcluded) input log
        (.working (.line dir line :: rest) progress) →
      progress.text = "" ∨ Text.endsLine progress.text = true) ∧
    ∀ progress, combine (.make scope excludes keepExcluded) input = .ok progress →
      ∃ start listing, scope.files.locate scope.here input = .ok start ∧
        FirstVisits (.make scope excludes keepExcluded) start listing ∧
        Text.lines progress.text =
          (listing.rows start).flatMap (Row.lines start keepExcluded) ∧
        ∀ line ∈ Text.lines progress.text,
          isPragmaOnce line = false ∧
          Whole (.make scope excludes keepExcluded) start progress.opened line ∧
          (keepExcluded = false → ∀ name, includeName? line = some name →
            ∃ file source, file ∈ progress.opened ∧ HasLine scope.files file source ∧
              line = placed start file source ∧
              scope.resolve (some file.parent) ⟨name⟩ = none) := by
  refine ⟨fun log dir line rest progress run => run.atLineStart, ?_⟩
  intro progress hcombine
  obtain ⟨start, listing, hstart, hvisits, hrows, hlines⟩ := exists_rows_of_combine hcombine
  refine ⟨start, listing, hstart, hvisits, hrows, ?_⟩
  intro line hmem
  have hline := hlines line hmem
  refine ⟨hline.isPragmaOnce_eq_false, hline.whole, ?_⟩
  intro hkeeps name hname
  exact hline.exists_lost_include hkeeps hname

/-! ### A last line without its end -/

/-- The last line of the included file is ended and that of the input is not, but both of them, and
the include that leads nowhere, are whole. -/
theorem seam_lines_stay_whole :
    ∃ progress, combine (.make seamScope [] false) ⟨"a.c"⟩ = .ok progress ∧
      "int b;\n" ∈ Text.lines progress.text ∧ "int a;" ∈ Text.lines progress.text ∧
      ∃ start, seamScope.files.locate .root ⟨"a.c"⟩ = .ok start ∧
        ∀ line ∈ Text.lines progress.text,
          Whole (.make seamScope [] false) start progress.opened line := by
  obtain ⟨progress, hcombine, htext⟩ := combine_seamScope
  obtain ⟨start, listing, hstart, -, -, hlines⟩ :=
    (combined_lines_stay_whole seamScope [] false ⟨"a.c"⟩).2 progress hcombine
  refine ⟨progress, hcombine, ?_, ?_, start, hstart, fun line hline => (hlines line hline).2.1⟩
  · rw [htext]
    decide +kernel
  · rw [htext]
    decide +kernel

theorem ne_terminated_of_endsLine_eq_false {text : String} (hne : text ≠ "")
    (h : Text.endsLine text = false) (line : String) : text ≠ terminated line := by
  rintro rfl
  rw [(terminated_eq_empty_or_endsLine line).resolve_left hne] at h
  cases h

/-- The last line of the input is neither a remark nor a line that is ended. -/
theorem last_line_of_input_stays_open :
    ∃ progress, combine (.make seamScope [] false) ⟨"a.c"⟩ = .ok progress ∧
      ∃ line ∈ Text.lines progress.text,
        (∀ kind name, line ≠ (Piece.remark kind name).text) ∧
          ∀ source, line ≠ terminated source := by
  obtain ⟨progress, hcombine, htext⟩ := combine_seamScope
  refine ⟨progress, hcombine, "int a;", ?_, ?_, ?_⟩
  · rw [htext]
    decide +kernel
  · intro kind name hremark
    have hends := Progress.endsLine_remark kind name
    rw [← hremark] at hends
    revert hends
    decide
  · exact ne_terminated_of_endsLine_eq_false (by decide) (by decide)

end CrossGen.Combine
