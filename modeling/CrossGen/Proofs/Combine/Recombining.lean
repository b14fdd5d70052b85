import CrossGen.Proofs.Combine.Rows

/-!
# Combining once more

The combined text asks nowhere that a file be included once, whichever file a line comes from.  If
none of the includes that are left in the text leads to a file, then, all of its lines are copied
when it is combined once more.
-/

namespace CrossGen.Combine

/-! ## No line of the text asks for its file to be included once -/

/-- Nowhere does the text ask for its file to be included once. -/
def PragmaFree (text : String) : Prop :=
  ∀ line ∈ Text.lines text, isPragmaOnce line = false

theorem pragmaFree_of_combine
    {rules : Rules} {input : Path} {progress : Progress}
    (h : combine rules input = .ok progress) : PragmaFree progress.text := by
  obtain ⟨start, listing, -, -, -, hlines⟩ := exists_rows_of_combine h
  intro line hline
  exact (hlines line hline).isPragmaOnce_eq_false

/-! ## Copying -/

/-- The listing of lines of which none is replaced. -/
def Listing.copying : List String → Listing
  | [] => .done
  | line :: lines => .source line (copying lines)

theorem meetings_copying (lines : List String) : (Listing.copying lines).meetings = [] := by
  induction lines with
  | nil => rfl
  | cons line lines ih => exact ih

theorem describes_copying
    {rules : Rules} {file : Location} {lines : List String}
    (h : ∀ line ∈ lines, rules.target? file.parent line = none) :
    Describes rules file lines (.copying lines) := by
  induction lines with
  | nil => exact .done
  | cons line lines ih =>
      obtain ⟨hline, hlines⟩ := List.forall_mem_cons.mp h
      exact .source hline (ih hlines)

theorem render_copying
    {lines : List String} (h : ∀ line ∈ lines, isPragmaOnce line = false) (keepExcluded : Bool) :
    (Listing.copying lines).render keepExcluded = String.join lines := by
  induction lines with
  | nil => rfl
  | cons line lines ih =>
      obtain ⟨hline, hlines⟩ := List.forall_mem_cons.mp h
      rw [Listing.copying, Listing.render, ih hlines, if_neg (by simp [hline]), String.join_cons]

/-- A text that nowhere asks to be included once, and of whose includes none leads to a file, is
combined to itself. -/
theorem combine_of_pragmaFree
    {rules : Rules} {input : Path} {start : Location} {text : String}
    (hlocate : rules.files.locate rules.here input = .ok start)
    (hcontent : rules.files.contentAt start = .ok text.toUTF8)
    (htarget : ∀ line ∈ Text.lines text, rules.target? start.parent line = none)
    (hfree : PragmaFree text) :
    ∃ progress, combine rules input = .ok progress ∧ progress.text = text := by
  have hread : readLines rules.files start = .ok (Text.lines text) :=
    readLines_eq_ok_iff.mpr ⟨_, text, hcontent, Text.decode?_toUTF8 text, rfl⟩
  have hvisits : FirstVisits rules start (.copying (Text.lines text)) := by
    constructor
    · exact ⟨Text.lines text, hread, describes_copying htarget⟩
    · rw [meetings_copying]
      exact inlinesFirst_nil [start]
  refine ⟨_, combine_eq_ok_iff.mpr ⟨start, _, hlocate, hvisits, rfl⟩, ?_⟩
  rw [hvisits.text_play, render_copying hfree, Text.join_lines]

/-- Combining is idempotent.  Wherever a combined text is stored, in the file system that it was
made from or in another one: if none of its includes leads to a file from there, then combining it
once more succeeds, whatever is asked for excluded files, and gives the same text. -/
theorem combine_combined
    (scope : Scope) (excludes : List Path) (keepExcluded keepAgain : Bool) (input stored : Path)
    (progress : Progress) (files : FileSystem) (loc : Location)
    (hcombine : combine (.make scope excludes keepExcluded) input = .ok progress)
    (hlocate : files.locate scope.here stored = .ok loc)
    (hstored : files.contentAt loc = .ok progress.text.toUTF8)
    (hlost : ∀ line ∈ Text.lines progress.text, ∀ name, includeName? line = some name →
      Scope.resolve { scope with files := files } (some loc.parent) ⟨name⟩ = none) :
    ∃ again, combine (.make { scope with files := files } excludes keepAgain) stored = .ok again ∧
      again.text = progress.text := by
  have htarget : ∀ line ∈ Text.lines progress.text,
      (Rules.make { scope with files := files } excludes keepAgain).target? loc.parent line =
        none := by
    intro line hline
    unfold Rules.target?
    cases hname : includeName? line with
    | none => rfl
    | some name =>
        have hresolve := hlost line hline name hname
        simp only [Rules.make, hresolve, Option.map_none]
  exact combine_of_pragmaFree hlocate hstored htarget (pragmaFree_of_combine hcombine)

/-! ### An include that leads nowhere -/

/-- A file that includes one without a last newline, and one that is not there. -/
def seamScope : Scope :=
  { files := ⟨[
      (⟨["a.c"]⟩, .file
        "#pragma once\n#include \"b.h\"\n#include \"gone.h\"\nint a;".toUTF8 false),
      (⟨["b.h"]⟩, .file "int b;".toUTF8 false)]⟩
    here := .root
    roots := [⟨"/"⟩] }

def seamListing : Listing :=
  .source "#pragma once\n"
    (.inlined "#include \"b.h\"\n" "b.h" ⟨["b.h"]⟩ (.source "int b;" .done)
      (.source "#include \"gone.h\"\n" (.source "int a;" .done)))

def seamText : String :=
  "/**** start inlining b.h ****/\nint b;\n/**** ended inlining b.h ****/\n" ++
    "#include \"gone.h\"\nint a;"

def seamStored : FileSystem :=
  seamScope.files.put ⟨["one.c"]⟩ (.file seamText.toUTF8 false)

theorem firstVisits_seamListing :
    FirstVisits (.make seamScope [] false) ⟨["a.c"]⟩ seamListing where
  describes := by
    have hbody : readLines seamScope.files ⟨["b.h"]⟩ = .ok ["int b;"] := by rfl
    refine ⟨["#pragma once\n", "#include \"b.h\"\n", "#include \"gone.h\"\n", "int a;"], by rfl, ?_⟩
    refine .source (by decide +kernel)
      (.inlined (by decide +kernel) (by decide +kernel) hbody ?_ ?_)
    · exact .source (by decide +kernel) .done
    · exact .source (by decide +kernel) (.source (by decide +kernel) .done)
  first := by
    simp [seamListing, Listing.meetings, inlinesFirst_cons_iff, inlinesFirst_nil]

theorem combine_seamScope :
    ∃ progress, combine (.make seamScope [] false) ⟨"a.c"⟩ = .ok progress ∧
      progress.text = seamText := by
  have hlocate : seamScope.files.locate .root ⟨"a.c"⟩ = .ok ⟨["a.c"]⟩ := by rfl
  have hcombine := combine_eq_ok_iff.mpr
    ⟨⟨["a.c"]⟩, seamListing, hlocate, firstVisits_seamListing, rfl⟩
  exact ⟨_, hcombine, firstVisits_seamListing.text_play.trans (by decide +kernel)⟩

/-- The text with the include that leads nowhere is stored beside its sources, and combined to
itself. -/
theorem combine_combined_seam :
    ∃ again,
      combine (.make { seamScope with files := seamStored } [] true) ⟨"one.c"⟩ = .ok again ∧
        again.text = seamText := by
  obtain ⟨progress, hcombine, htext⟩ := combine_seamScope
  have hlost : ∀ line ∈ Text.lines seamText, (includeName? line).all fun name =>
      (Scope.resolve { seamScope with files := seamStored } (some .root) ⟨name⟩).isNone := by
    decide +kernel
  have hstored : seamStored.contentAt ⟨["one.c"]⟩ = .ok progress.text.toUTF8 := by
    rw [htext]
    rfl
  rw [← htext] at hlost ⊢
  refine combine_combined seamScope [] false true ⟨"a.c"⟩ ⟨"one.c"⟩ _ _ ⟨["one.c"]⟩ hcombine
    (by rfl) hstored ?_
  intro line hline name hname
  have hnone := hlost line hline
  rw [hname] at hnone
  exact Option.isNone_iff_eq_none.mp hnone

end CrossGen.Combine
