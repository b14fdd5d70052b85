import CrossGen.Proofs.Combine.Rendering
import CrossGen.Proofs.Combine.Stepwise
import Mathlib.Data.List.Nodup

/-!
# Listings

A listing tells what becomes of the lines of a file, and of the files that are inlined on the way.
It is the tree of the files that are inlined, without a word about how inlining goes on.  Two
conditions single out one listing for each file: it has to describe the files as they are, and of
the includes that meet one file the first one, and no other, has to inline it.  The text of a
listing is then a matter of its shape alone.
-/

namespace CrossGen.Combine

/-- What becomes of the lines of a file, one after the other.  A line is source, or it includes a
file that is excluded, one that has been met before, or one whose lines take its place. -/
inductive Listing where
  | done
  | source (line : String) (rest : Listing)
  | excluded (line name : String) (loc : Location) (rest : Listing)
  | repeated (line name : String) (loc : Location) (rest : Listing)
  | inlined (line name : String) (loc : Location) (body rest : Listing)
deriving DecidableEq, Repr

/-- An include that meets a file that is not excluded, and whether it inlines that file. -/
structure Meeting where
  loc : Location
  isInlined : Bool
deriving DecidableEq, Repr

namespace Listing

/-- The includes that meet files which are not excluded, in the order of the output. -/
def meetings : Listing → List Meeting
  | done => []
  | source _ rest | excluded _ _ _ rest => rest.meetings
  | repeated _ _ loc rest => ⟨loc, false⟩ :: rest.meetings
  | inlined _ _ loc body rest => ⟨loc, true⟩ :: (body.meetings ++ rest.meetings)

/-- The files that are inlined, in the order of the output. -/
def files : Listing → List Location
  | done => []
  | source _ rest | excluded _ _ _ rest | repeated _ _ _ rest => rest.files
  | inlined _ _ loc body rest => loc :: (body.files ++ rest.files)

/-- The text of a listing, which says of excluded files what `keepExcluded` asks for. -/
def render (keepExcluded : Bool) : Listing → String
  | done => ""
  | source line rest => (if isPragmaOnce line = true then "" else line) ++ rest.render keepExcluded
  | excluded line name _ rest =>
      (if keepExcluded = true then (Piece.remark .kept name).text ++ terminated line
        else (Piece.remark .skipped name).text) ++ rest.render keepExcluded
  | repeated _ name _ rest => (Piece.remark .skipped name).text ++ rest.render keepExcluded
  | inlined _ name _ body rest =>
      (Piece.remark .start name).text ++ terminated (body.render keepExcluded) ++
        (Piece.remark .finish name).text ++ rest.render keepExcluded

end Listing

/-! ## Describing files -/

/-- The listing describes the given lines of `file`: every line is taken for what it is, and a file
that is inlined is described by what takes its place. -/
inductive Describes (rules : Rules) : Location → List String → Listing → Prop
  | done {file : Location} : Describes rules file [] .done
  | source {file : Location} {line : String} {lines : List String} {rest : Listing}
      (htarget : rules.target? file.parent line = none)
      (hrest : Describes rules file lines rest) :
      Describes rules file (line :: lines) (.source line rest)
  | excluded {file loc : Location} {line name : String} {lines : List String} {rest : Listing}
      (htarget : rules.target? file.parent line = some (name, loc))
      (hexcluded : loc ∈ rules.excluded)
      (hrest : Describes rules file lines rest) :
      Describes rules file (line :: lines) (.excluded line name loc rest)
  | repeated {file loc : Location} {line name : String} {lines : List String} {rest : Listing}
      (htarget : rules.target? file.parent line = some (name, loc))
      (hexcluded : loc ∉ rules.excluded)
      (hrest : Describes rules file lines rest) :
      Describes rules file (line :: lines) (.repeated line name loc rest)
  | inlined {file loc : Location} {line name : String} {lines content : List String}
      {body rest : Listing}
      (htarget : rules.target? file.parent line = some (name, loc))
      (hexcluded : loc ∉ rules.excluded)
      (hread : readLines rules.files loc = .ok content)
      (hbody : Describes rules loc content body)
      (hrest : Describes rules file lines rest) :
      Describes rules file (line :: lines) (.inlined line name loc body rest)

/-- Of the includes that meet one file the first one inlines it, unless the file is among those that
were seen before, and no other include does. -/
def InlinesFirst (seen : List Location) (meetings : List Meeting) : Prop :=
  ∀ before meeting after, meetings = before ++ meeting :: after →
    (meeting.isInlined = true ↔
      meeting.loc ∉ seen ∧ meeting.loc ∉ before.map Meeting.loc)

theorem inlinesFirst_nil (seen : List Location) : InlinesFirst seen [] := by
  intro before meeting after h
  simp at h

theorem inlinesFirst_append_iff
    {seen : List Location} {meetings others : List Meeting} :
    InlinesFirst seen (meetings ++ others) ↔
      InlinesFirst seen meetings ∧ InlinesFirst (meetings.map Meeting.loc ++ seen) others := by
  constructor
  · intro h
    constructor
    · rintro before meeting after rfl
      exact h before meeting (after ++ others) (by simp)
    · rintro before meeting after rfl
      rw [h (meetings ++ before) meeting after (by simp)]
      simp only [List.map_append, List.mem_append, not_or]
      tauto
  · rintro ⟨hmeetings, hothers⟩ before meeting after hsplit
    rcases List.append_eq_append_iff.mp hsplit with
      ⟨middle, rfl, hmiddle⟩ | ⟨middle, hmiddle, hafter⟩
    · rw [hothers middle meeting after hmiddle]
      simp only [List.map_append, List.mem_append, not_or]
      tauto
    · cases middle with
      | nil =>
          rw [List.append_nil] at hmiddle
          subst hmiddle
          rw [hothers [] meeting after (by simpa using hafter.symm)]
          simp only [List.mem_append, not_or, List.map_nil, List.not_mem_nil]
          tauto
      | cons first middle =>
          obtain ⟨rfl, rfl⟩ := List.cons_eq_cons.mp hafter
          exact hmeetings before meeting middle hmiddle

theorem inlinesFirst_singleton_iff {seen : List Location} {meeting : Meeting} :
    InlinesFirst seen [meeting] ↔ (meeting.isInlined = true ↔ meeting.loc ∉ seen) := by
  constructor
  · intro h
    simpa using h [] meeting [] rfl
  · intro h before other after hsplit
    cases before with
    | nil =>
        obtain ⟨rfl, -⟩ := List.cons_eq_cons.mp hsplit
        simpa using h
    | cons first before => simp at hsplit

theorem inlinesFirst_cons_iff
    {seen : List Location} {meeting : Meeting} {meetings : List Meeting} :
    InlinesFirst seen (meeting :: meetings) ↔
      (meeting.isInlined = true ↔ meeting.loc ∉ seen) ∧
        InlinesFirst (meeting.loc :: seen) meetings := by
  rw [← List.singleton_append, inlinesFirst_append_iff, inlinesFirst_singleton_iff]
  rfl

theorem InlinesFirst.congr
    {seen others : List Location} {meetings : List Meeting}
    (h : InlinesFirst seen meetings) (hsame : ∀ loc, loc ∈ seen ↔ loc ∈ others) :
    InlinesFirst others meetings := by
  intro before meeting after hsplit
  rw [h before meeting after hsplit, hsame]

/-! ## Files that are inlined -/

theorem mem_files_iff {listing : Listing} {loc : Location} :
    loc ∈ listing.files ↔ ⟨loc, true⟩ ∈ listing.meetings := by
  induction listing with
  | done => simp [Listing.files, Listing.meetings]
  | source line rest ih => simpa [Listing.files, Listing.meetings] using ih
  | excluded line name other rest ih => simpa [Listing.files, Listing.meetings] using ih
  | repeated line name other rest ih => simpa [Listing.files, Listing.meetings] using ih
  | inlined line name other body rest ihbody ihrest =>
      simp [Listing.files, Listing.meetings, ihbody, ihrest]

theorem mem_seen_or_inlined
    {seen : List Location} {meetings : List Meeting} (h : InlinesFirst seen meetings)
    {loc : Location} (hloc : loc ∈ meetings.map Meeting.loc) :
    loc ∈ seen ∨ ⟨loc, true⟩ ∈ meetings := by
  induction meetings generalizing seen with
  | nil => cases hloc
  | cons meeting meetings ih =>
      obtain ⟨hfirst, hrest⟩ := inlinesFirst_cons_iff.mp h
      by_cases hseen : loc ∈ seen
      · exact Or.inl hseen
      · refine Or.inr ?_
        by_cases hsame : meeting.loc = loc
        · subst hsame
          have hinlined : meeting.isInlined = true := hfirst.mpr hseen
          exact List.mem_cons.mpr (Or.inl (by rw [← hinlined]))
        · have hlater : loc ∈ meetings.map Meeting.loc :=
            (List.mem_cons.mp hloc).resolve_left (Ne.symm hsame)
          rcases ih hrest hlater with hmem | hmem
          · exact absurd hmem (by simp [Ne.symm hsame, hseen])
          · exact List.mem_cons_of_mem _ hmem

theorem mem_seen_or_files
    {seen : List Location} {listing : Listing} (h : InlinesFirst seen listing.meetings)
    {loc : Location} (hloc : loc ∈ listing.meetings.map Meeting.loc) :
    loc ∈ seen ∨ loc ∈ listing.files :=
  (mem_seen_or_inlined h hloc).imp_right mem_files_iff.mpr

theorem loc_mem_of_mem_files {listing : Listing} {loc : Location} (h : loc ∈ listing.files) :
    loc ∈ listing.meetings.map Meeting.loc :=
  List.mem_map.mpr ⟨_, mem_files_iff.mp h, rfl⟩

/-- Seen together with met is seen together with inlined. -/
theorem mem_met_iff_mem_opened
    {seen : List Location} {listing : Listing} (h : InlinesFirst seen listing.meetings)
    (loc : Location) :
    loc ∈ listing.meetings.map Meeting.loc ++ seen ↔ loc ∈ listing.files.reverse ++ seen := by
  rw [List.mem_append, List.mem_append, List.mem_reverse]
  constructor
  · rintro (hmet | hseen)
    · exact (mem_seen_or_files h hmet).symm
    · exact Or.inr hseen
  · rintro (hfile | hseen)
    · exact Or.inl (loc_mem_of_mem_files hfile)
    · exact Or.inr hseen

theorem not_mem_seen_of_mem_files
    {seen : List Location} {listing : Listing} (h : InlinesFirst seen listing.meetings)
    {loc : Location} (hloc : loc ∈ listing.files) : loc ∉ seen := by
  obtain ⟨before, after, hsplit⟩ := List.append_of_mem (mem_files_iff.mp hloc)
  exact ((h before _ after hsplit).mp rfl).1

theorem nodup_files
    {seen : List Location} {listing : Listing} (h : InlinesFirst seen listing.meetings) :
    listing.files.Nodup := by
  induction listing generalizing seen with
  | done => exact List.nodup_nil
  | source line rest ih => exact ih h
  | excluded line name loc rest ih => exact ih h
  | repeated line name loc rest ih => exact ih (inlinesFirst_cons_iff.mp h).2
  | inlined line name loc body rest ihbody ihrest =>
      obtain ⟨hbody, hrest⟩ := inlinesFirst_append_iff.mp (inlinesFirst_cons_iff.mp h).2
      refine List.nodup_cons.mpr ⟨?_, List.nodup_append.mpr ⟨ihbody hbody, ihrest hrest, ?_⟩⟩
      · intro hmem
        rcases List.mem_append.mp hmem with hmem | hmem
        · exact not_mem_seen_of_mem_files hbody hmem (by simp)
        · exact not_mem_seen_of_mem_files hrest hmem (by simp)
      · rintro other hother _ hagain rfl
        exact not_mem_seen_of_mem_files hrest hagain
          (List.mem_append_left _ (loc_mem_of_mem_files hother))

/-! ## Uniqueness -/

/-- Files have at most one listing in which every first include inlines. -/
theorem Describes.eq_of_inlinesFirst
    {rules : Rules} {file : Location} {lines : List String} {listing other : Listing}
    {seen : List Location}
    (hlisting : Describes rules file lines listing)
    (hfirst : InlinesFirst seen listing.meetings)
    (hother : Describes rules file lines other)
    (hfirst' : InlinesFirst seen other.meetings) :
    listing = other := by
  induction hlisting generalizing other seen with
  | done =>
      cases hother
      rfl
  | source htarget hrest ih =>
      cases hother with
      | source _ hrest' => rw [ih hfirst hrest' hfirst']
      | excluded htarget' => simp [htarget] at htarget'
      | repeated htarget' => simp [htarget] at htarget'
      | inlined htarget' => simp [htarget] at htarget'
  | excluded htarget hexcluded hrest ih =>
      cases hother with
      | source htarget' => simp [htarget] at htarget'
      | excluded htarget' _ hrest' =>
          obtain ⟨rfl, rfl⟩ := target?_inj htarget htarget'
          rw [ih hfirst hrest' hfirst']
      | repeated htarget' hexcluded' =>
          obtain ⟨rfl, rfl⟩ := target?_inj htarget htarget'
          exact absurd hexcluded hexcluded'
      | inlined htarget' hexcluded' =>
          obtain ⟨rfl, rfl⟩ := target?_inj htarget htarget'
          exact absurd hexcluded hexcluded'
  | repeated htarget hexcluded hrest ih =>
      obtain ⟨hseen, hfirst⟩ := inlinesFirst_cons_iff.mp hfirst
      cases hother with
      | source htarget' => simp [htarget] at htarget'
      | excluded htarget' hexcluded' =>
          obtain ⟨rfl, rfl⟩ := target?_inj htarget htarget'
          exact absurd hexcluded' hexcluded
      | repeated htarget' _ hrest' =>
          obtain ⟨rfl, rfl⟩ := target?_inj htarget htarget'
          rw [ih hfirst hrest' (inlinesFirst_cons_iff.mp hfirst').2]
      | inlined htarget' =>
          obtain ⟨rfl, rfl⟩ := target?_inj htarget htarget'
          have hnew := (inlinesFirst_cons_iff.mp hfirst').1.mp rfl
          exact absurd (hseen.mpr hnew) (by simp)
  | inlined htarget hexcluded hread hbody hrest ihbody ihrest =>
      obtain ⟨hseen, hlater⟩ := inlinesFirst_cons_iff.mp hfirst
      obtain ⟨hfirstBody, hfirstRest⟩ := inlinesFirst_append_iff.mp hlater
      cases hother with
      | source htarget' => simp [htarget] at htarget'
      | excluded htarget' hexcluded' =>
          obtain ⟨rfl, rfl⟩ := target?_inj htarget htarget'
          exact absurd hexcluded' hexcluded
      | repeated htarget' =>
          obtain ⟨rfl, rfl⟩ := target?_inj htarget htarget'
          have hnew := (inlinesFirst_cons_iff.mp hfirst').1
          exact absurd (hnew.mpr (hseen.mp rfl)) (by simp)
      | inlined htarget' _ hread' hbody' hrest' =>
          obtain ⟨rfl, rfl⟩ := target?_inj htarget htarget'
          obtain rfl := Except.ok.inj (hread.symm.trans hread')
          obtain ⟨hfirstBody', hfirstRest'⟩ :=
            inlinesFirst_append_iff.mp (inlinesFirst_cons_iff.mp hfirst').2
          obtain rfl := ihbody hfirstBody hbody' hfirstBody'
          rw [ihrest hfirstRest hrest' hfirstRest']

end CrossGen.Combine
