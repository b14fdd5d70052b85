import CrossGen.Proofs.Combine.Playing
import Mathlib.Logic.Relation

/-!
# The combined text

Combining inlines exactly the files that can be reached over includes, each of them once and where
it is met first, and its text is that of the listing of these first visits.
-/

namespace CrossGen.Combine

/-- The file includes the file at `loc`, which is not excluded. -/
def Includes (rules : Rules) (file loc : Location) : Prop :=
  ∃ lines line name, readLines rules.files file = .ok lines ∧ line ∈ lines ∧
    rules.target? file.parent line = some (name, loc) ∧ loc ∉ rules.excluded

/-- The files that can be reached from `start` over includes of files that are not excluded. -/
abbrev Reachable (rules : Rules) (start : Location) : Location → Prop :=
  Relation.ReflTransGen (Includes rules) start

/-! ## A listing and the graph of includes -/

theorem mem_meetings_of_target?
    {rules : Rules} {file : Location} {lines : List String} {listing : Listing}
    (hlisting : Describes rules file lines listing)
    {line name : String} {loc : Location} (hline : line ∈ lines)
    (htarget : rules.target? file.parent line = some (name, loc))
    (hexcluded : loc ∉ rules.excluded) :
    loc ∈ listing.meetings.map Meeting.loc := by
  induction hlisting with
  | done => cases hline
  | source htarget' hrest ih =>
      rcases List.mem_cons.mp hline with rfl | hline
      · simp [htarget] at htarget'
      · exact ih hline htarget
  | excluded htarget' hexcluded' hrest ih =>
      rcases List.mem_cons.mp hline with rfl | hline
      · obtain ⟨rfl, rfl⟩ := target?_inj htarget htarget'
        exact absurd hexcluded' hexcluded
      · exact ih hline htarget
  | repeated htarget' hexcluded' hrest ih =>
      rcases List.mem_cons.mp hline with rfl | hline
      · obtain ⟨rfl, rfl⟩ := target?_inj htarget htarget'
        exact List.mem_cons_self
      · exact List.mem_cons_of_mem _ (ih hline htarget)
  | inlined htarget' hexcluded' hread hbody hrest ihbody ihrest =>
      rcases List.mem_cons.mp hline with rfl | hline
      · obtain ⟨rfl, rfl⟩ := target?_inj htarget htarget'
        exact List.mem_cons_self
      · rw [Listing.meetings, List.map_cons, List.map_append]
        exact List.mem_cons_of_mem _ (List.mem_append_right _ (ihrest hline htarget))

theorem mem_meetings_of_includes
    {rules : Rules} {file : Location} {lines : List String} {listing : Listing}
    (hlisting : Describes rules file lines listing)
    {inner loc : Location} (hinner : inner ∈ listing.files)
    (hincludes : Includes rules inner loc) :
    loc ∈ listing.meetings.map Meeting.loc := by
  induction hlisting with
  | done => cases hinner
  | source htarget hrest ih => exact ih hinner
  | excluded htarget hexcluded hrest ih => exact ih hinner
  | repeated htarget hexcluded hrest ih => exact List.mem_cons_of_mem _ (ih hinner)
  | inlined htarget hexcluded hread hbody hrest ihbody ihrest =>
      rw [Listing.meetings, List.map_cons, List.map_append]
      refine List.mem_cons_of_mem _ (List.mem_append.mpr ?_)
      rcases List.mem_cons.mp hinner with rfl | hinner
      · obtain ⟨content, line, name, hread', hline, htarget', hexcluded'⟩ := hincludes
        obtain rfl := Except.ok.inj (hread.symm.trans hread')
        exact Or.inl (mem_meetings_of_target? hbody hline htarget' hexcluded')
      · exact (List.mem_append.mp hinner).imp ihbody ihrest

/-- Every file that is inlined can be reached from the file that is described. -/
theorem reachable_of_mem_files
    {rules : Rules} {file : Location} {lines content : List String} {listing : Listing}
    (hlisting : Describes rules file lines listing)
    (hread : readLines rules.files file = .ok content) (hlines : lines ⊆ content)
    {loc : Location} (hloc : loc ∈ listing.files) :
    Reachable rules file loc := by
  induction hlisting generalizing content with
  | done => cases hloc
  | source htarget hrest ih =>
      exact ih hread (List.subset_of_cons_subset hlines) hloc
  | excluded htarget hexcluded hrest ih =>
      exact ih hread (List.subset_of_cons_subset hlines) hloc
  | repeated htarget hexcluded hrest ih =>
      exact ih hread (List.subset_of_cons_subset hlines) hloc
  | inlined htarget hexcluded hreadBody hbody hrest ihbody ihrest =>
      obtain ⟨hline, hothers⟩ := List.cons_subset.mp hlines
      have hstep : Includes rules _ _ := ⟨content, _, _, hread, hline, htarget, hexcluded⟩
      rcases List.mem_cons.mp hloc with rfl | hloc
      · exact .single hstep
      · rcases List.mem_append.mp hloc with hloc | hloc
        · exact .head hstep (ihbody hreadBody (List.Subset.refl _) hloc)
        · exact ihrest hread hothers hloc

/-- A listing in which first includes inline leaves out no file that can be reached. -/
theorem mem_files_of_reachable
    {rules : Rules} {start : Location} {lines : List String} {listing : Listing}
    (hlisting : Describes rules start lines listing)
    (hread : readLines rules.files start = .ok lines)
    (hfirst : InlinesFirst [start] listing.meetings)
    {loc : Location} (hloc : Reachable rules start loc) :
    loc ∈ start :: listing.files := by
  induction hloc with
  | refl => exact List.mem_cons_self
  | @tail file next hreach hincludes ih =>
      have hmet : next ∈ listing.meetings.map Meeting.loc := by
        rcases List.mem_cons.mp ih with rfl | hfile
        · obtain ⟨content, line, name, hread', hline, htarget, hexcluded⟩ := hincludes
          obtain rfl := Except.ok.inj (hread.symm.trans hread')
          exact mem_meetings_of_target? hlisting hline htarget hexcluded
        · exact mem_meetings_of_includes hlisting hfile hincludes
      rcases mem_seen_or_files hfirst hmet with hseen | hfile
      · exact List.mem_cons.mpr (Or.inl (List.mem_singleton.mp hseen))
      · exact List.mem_cons_of_mem _ hfile

/-! ## Combining -/

/-- The listing of a file and of all files that are inlined below it, each where it is met first. -/
structure FirstVisits (rules : Rules) (start : Location) (listing : Listing) : Prop where
  /-- Every line of the file, and of each file that is inlined, is listed for what it is. -/
  describes : ∃ lines, readLines rules.files start = .ok lines ∧
    Describes rules start lines listing
  /-- The file itself is there from the beginning, and any other is inlined where it is met
  first. -/
  first : InlinesFirst [start] listing.meetings

theorem FirstVisits.eq
    {rules : Rules} {start : Location} {listing other : Listing}
    (h : FirstVisits rules start listing) (h' : FirstVisits rules start other) :
    listing = other := by
  obtain ⟨lines, hread, hlisting⟩ := h.describes
  obtain ⟨lines', hread', hother⟩ := h'.describes
  obtain rfl := Except.ok.inj (hread.symm.trans hread')
  exact hlisting.eq_of_inlinesFirst h.first hother h'.first

theorem FirstVisits.nodup
    {rules : Rules} {start : Location} {listing : Listing}
    (h : FirstVisits rules start listing) : (start :: listing.files).Nodup :=
  List.nodup_cons.mpr
    ⟨fun hstart => not_mem_seen_of_mem_files h.first hstart (by simp), nodup_files h.first⟩

theorem FirstVisits.mem_iff
    {rules : Rules} {start : Location} {listing : Listing}
    (h : FirstVisits rules start listing) (loc : Location) :
    loc ∈ start :: listing.files ↔ Reachable rules start loc := by
  obtain ⟨lines, hread, hlisting⟩ := h.describes
  constructor
  · intro hloc
    rcases List.mem_cons.mp hloc with rfl | hloc
    · exact .refl
    · exact reachable_of_mem_files hlisting hread (List.Subset.refl _) hloc
  · exact mem_files_of_reachable hlisting hread h.first

theorem combine_of_locate_error
    {rules : Rules} {input : Path} {e : IoError}
    (h : rules.files.locate rules.here input = .error e) :
    combine rules input = .error (.combine (input.text ++ ": " ++ e.message)) := by
  rw [combine, h]

theorem combine_of_locate
    {rules : Rules} {input : Path} {start : Location}
    (h : rules.files.locate rules.here input = .ok start) :
    combine rules input =
      (readLines rules.files start).bind fun lines =>
        inline rules (fileTasks start lines) ⟨[start], #[]⟩ := by
  rw [combine, h]
  dsimp only
  cases readLines rules.files start <;> rfl

/-- Combining succeeds exactly if the first visits from its input can be listed, and then plays
their listing. -/
theorem combine_eq_ok_iff {rules : Rules} {input : Path} {progress : Progress} :
    combine rules input = .ok progress ↔
      ∃ start listing, rules.files.locate rules.here input = .ok start ∧
        FirstVisits rules start listing ∧ progress = listing.play rules ⟨[start], #[]⟩ := by
  constructor
  · intro h
    cases hstart : rules.files.locate rules.here input with
    | error e =>
        rw [combine_of_locate_error hstart] at h
        cases h
    | ok start =>
        rw [combine_of_locate hstart] at h
        cases hread : readLines rules.files start with
        | error e =>
            rw [hread] at h
            cases h
        | ok lines =>
            rw [hread] at h
            change inline rules (fileTasks start lines) _ = _ at h
            obtain ⟨listing, hlisting, hfirst⟩ := exists_listing_of_inline_ok _ _ _ h
            exact ⟨start, listing, rfl, ⟨⟨lines, hread, hlisting⟩, hfirst⟩,
              Except.ok.inj (h.symm.trans (inline_eq_play hlisting hfirst))⟩
  · rintro ⟨start, listing, hstart, ⟨⟨lines, hread, hlisting⟩, hfirst⟩, rfl⟩
    have hplay : inline rules (fileTasks start lines) ⟨[start], #[]⟩ =
        .ok (listing.play rules ⟨[start], #[]⟩) := inline_eq_play hlisting hfirst
    rw [combine_of_locate hstart, hread]
    exact hplay

theorem FirstVisits.text_play
    {rules : Rules} {start : Location} {listing : Listing}
    (h : FirstVisits rules start listing) :
    (listing.play rules ⟨[start], #[]⟩).text = listing.render rules.keepExcluded := by
  obtain ⟨lines, hread, hlisting⟩ := h.describes
  have hempty : Progress.HasNoEmptyLine ⟨[start], #[]⟩ := by simp [Progress.HasNoEmptyLine]
  rw [(Combine.text_play hlisting (ne_empty_of_readLines hread) hempty).2]
  simp [Progress.text]

/-- Whenever combining succeeds there is one listing of first visits from the input.  The files that
are opened are the input and the files of the listing, in this order, none of them twice, and they
are exactly the files that can be reached from the input; the combined text is the text of the
listing. -/
theorem combine_inlines_reachable_files_once
    (scope : Scope) (excludes : List Path) (keepExcluded : Bool) (input : Path)
    (progress : Progress)
    (hcombine : combine (.make scope excludes keepExcluded) input = .ok progress) :
    ∃ start listing,
      scope.files.locate scope.here input = .ok start ∧
      FirstVisits (.make scope excludes keepExcluded) start listing ∧
      (∀ other, FirstVisits (.make scope excludes keepExcluded) start other → other = listing) ∧
      progress.opened.reverse = start :: listing.files ∧
      (start :: listing.files).Nodup ∧
      (∀ loc, loc ∈ start :: listing.files ↔
        Reachable (.make scope excludes keepExcluded) start loc) ∧
      progress.text = listing.render keepExcluded := by
  obtain ⟨start, listing, hstart, hvisits, rfl⟩ := combine_eq_ok_iff.mp hcombine
  refine ⟨start, listing, hstart, hvisits, fun other hother => hother.eq hvisits, ?_,
    hvisits.nodup, hvisits.mem_iff, hvisits.text_play⟩
  rw [opened_play]
  simp

/-! ### Two files that include each other -/

/-- Two files that include each other, and one that is to be left out. -/
def mutualScope : Scope :=
  { files := ⟨[
      (⟨["a.c"]⟩, .file "#include \"b.h\"\n#include \"x.h\"\n".toUTF8 false),
      (⟨["b.h"]⟩, .file "#include \"./a.c\"\nint b;".toUTF8 false),
      (⟨["x.h"]⟩, .file "int x;\n".toUTF8 false)]⟩
    here := .root
    roots := [⟨"/"⟩] }

def mutualListing : Listing :=
  .inlined "#include \"b.h\"\n" "b.h" ⟨["b.h"]⟩
    (.repeated "#include \"./a.c\"\n" "./a.c" ⟨["a.c"]⟩ (.source "int b;" .done))
    (.excluded "#include \"x.h\"\n" "x.h" ⟨["x.h"]⟩ .done)

theorem firstVisits_mutualListing (keepExcluded : Bool) :
    FirstVisits (.make mutualScope [⟨"x.h"⟩] keepExcluded) ⟨["a.c"]⟩ mutualListing where
  describes := by
    have hbody : readLines mutualScope.files ⟨["b.h"]⟩ =
        .ok ["#include \"./a.c\"\n", "int b;"] := by rfl
    refine ⟨["#include \"b.h\"\n", "#include \"x.h\"\n"], by rfl, ?_⟩
    cases keepExcluded
    · exact .inlined (by decide +kernel) (by decide +kernel) hbody
        (.repeated (by decide +kernel) (by decide +kernel) (.source (by decide +kernel) .done))
        (.excluded (by decide +kernel) (by decide +kernel) .done)
    · exact .inlined (by decide +kernel) (by decide +kernel) hbody
        (.repeated (by decide +kernel) (by decide +kernel) (.source (by decide +kernel) .done))
        (.excluded (by decide +kernel) (by decide +kernel) .done)
  first := by
    simp [mutualListing, Listing.meetings, inlinesFirst_cons_iff, inlinesFirst_nil]

/-- Of two files that include each other, each is inlined once. -/
theorem combine_mutual_files_once :
    ∃ progress,
      combine (.make mutualScope [⟨"x.h"⟩] true) ⟨"a.c"⟩ = .ok progress ∧
        progress.opened.reverse = [⟨["a.c"]⟩, ⟨["b.h"]⟩] ∧
        progress.text =
          "/**** start inlining b.h ****/\n/**** skipping file: ./a.c ****/\nint b;\n" ++
            "/**** ended inlining b.h ****/\n/**** *NOT* inlining x.h ****/\n" ++
            "#include \"x.h\"\n" := by
  have hvisits := firstVisits_mutualListing true
  have hlocate : mutualScope.files.locate .root ⟨"a.c"⟩ = .ok ⟨["a.c"]⟩ := by rfl
  have hcombine := combine_eq_ok_iff.mpr ⟨⟨["a.c"]⟩, mutualListing, hlocate, hvisits, rfl⟩
  obtain ⟨start, listing, hstart, -, hunique, hopened, -, -, htext⟩ :=
    combine_inlines_reachable_files_once mutualScope [⟨"x.h"⟩] true ⟨"a.c"⟩ _ hcombine
  obtain rfl : ⟨["a.c"]⟩ = start := Except.ok.inj (hlocate.symm.trans hstart)
  obtain rfl := hunique mutualListing hvisits
  exact ⟨_, hcombine, hopened, htext.trans (by decide +kernel)⟩

end CrossGen.Combine
