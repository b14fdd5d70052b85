import CrossGen.Proofs.Combine.Listing

/-!
# Inlining plays a listing

Inlining the lines of a file succeeds exactly if the file has a listing in which every first include
inlines, and then does nothing but play that listing: line by line it opens the files and adds the
text that the listing tells of.
-/

namespace CrossGen.Combine

/-- The progress that is made along a listing. -/
def Listing.play (rules : Rules) : Listing → Progress → Progress
  | .done, progress => progress
  | .source line rest, progress => rest.play rules (progress.copySource line)
  | .excluded line name loc rest, progress =>
      rest.play rules (passOver rules progress line name loc)
  | .repeated line name loc rest, progress =>
      rest.play rules (passOver rules progress line name loc)
  | .inlined _ name loc body rest, progress =>
      rest.play rules ((body.play rules (progress.enter loc name)).endLine.remark .finish name)

theorem opened_play (rules : Rules) (listing : Listing) (progress : Progress) :
    (listing.play rules progress).opened = listing.files.reverse ++ progress.opened := by
  induction listing generalizing progress with
  | done => rfl
  | source line rest ih => simp [Listing.play, Listing.files, ih]
  | excluded line name loc rest ih => simp [Listing.play, Listing.files, ih]
  | repeated line name loc rest ih => simp [Listing.play, Listing.files, ih]
  | inlined line name loc body rest ihbody ihrest =>
      simp [Listing.play, Listing.files, ihbody, ihrest]

/-- What is opened while a file is played is what its includes have met. -/
theorem inlinesFirst_after_body
    {rules : Rules} {body rest : Listing} {progress : Progress} {loc : Location} (name : String)
    (hbody : InlinesFirst (loc :: progress.opened) body.meetings)
    (hrest : InlinesFirst (body.meetings.map Meeting.loc ++ loc :: progress.opened)
      rest.meetings) :
    InlinesFirst
      ((body.play rules (progress.enter loc name)).endLine.remark .finish name).opened
      rest.meetings := by
  refine hrest.congr fun other => ?_
  rw [mem_met_iff_mem_opened hbody, Progress.opened_remark, Progress.opened_endLine,
    opened_play, Progress.opened_enter]

/-- Inlining plays every listing in which first includes inline. -/
theorem inline_eq_play
    {rules : Rules} {file : Location} {lines : List String} {listing : Listing}
    (hlisting : Describes rules file lines listing) {progress : Progress}
    (hfirst : InlinesFirst progress.opened listing.meetings) :
    inline rules (fileTasks file lines) progress = .ok (listing.play rules progress) := by
  induction hlisting generalizing progress with
  | done => exact inline_nil rules progress
  | source htarget hrest ih =>
      rw [fileTasks_cons, inline_source htarget]
      exact ih (by simpa [Listing.meetings] using hfirst)
  | excluded htarget hexcluded hrest ih =>
      rw [fileTasks_cons, inline_pass htarget (Or.inl hexcluded)]
      exact ih (by simpa [Listing.meetings] using hfirst)
  | @repeated file loc line name lines rest htarget hexcluded hrest ih =>
      obtain ⟨hmet, hlater⟩ := inlinesFirst_cons_iff.mp hfirst
      have hopened : loc ∈ progress.opened := by simpa using hmet
      rw [fileTasks_cons, inline_pass htarget (Or.inr hopened)]
      refine ih (hlater.congr fun other => ?_)
      simp only [opened_passOver, List.mem_cons, or_iff_right_iff_imp]
      rintro rfl
      exact hopened
  | inlined htarget hexcluded hread hbody hrest ihbody ihrest =>
      obtain ⟨hmet, hlater⟩ := inlinesFirst_cons_iff.mp hfirst
      obtain ⟨hinner, hbelow⟩ := inlinesFirst_append_iff.mp hlater
      rw [inline_enter htarget hexcluded (hmet.mp rfl) hread, ihbody hinner]
      exact ihrest (inlinesFirst_after_body _ hinner hbelow)

/-- If inlining succeeds, there is a listing for it to play. -/
theorem exists_listing_of_inline_ok
    {rules : Rules} (file : Location) (lines : List String) (progress : Progress)
    {final : Progress}
    (h : inline rules (fileTasks file lines) progress = .ok final) :
    ∃ listing, Describes rules file lines listing ∧
      InlinesFirst progress.opened listing.meetings := by
  induction file, lines, progress using fileLines_induction rules
    generalizing final with
  | nil file progress => exact ⟨.done, .done, inlinesFirst_nil _⟩
  | source file line lines progress htarget ih =>
      rw [fileTasks_cons, inline_source htarget] at h
      obtain ⟨rest, hrest, hfirst⟩ := ih h
      exact ⟨.source line rest, .source htarget hrest, by simpa [Listing.meetings] using hfirst⟩
  | pass file line lines progress name loc htarget hpass ih =>
      rw [fileTasks_cons, inline_pass htarget hpass] at h
      obtain ⟨rest, hrest, hfirst⟩ := ih h
      rw [opened_passOver] at hfirst
      by_cases hexcluded : loc ∈ rules.excluded
      · exact ⟨.excluded line name loc rest, .excluded htarget hexcluded hrest, hfirst⟩
      · have hopened : loc ∈ progress.opened := hpass.resolve_left hexcluded
        refine ⟨.repeated line name loc rest, .repeated htarget hexcluded hrest, ?_⟩
        refine inlinesFirst_cons_iff.mpr ⟨by simpa using hopened, hfirst.congr fun other => ?_⟩
        simp only [List.mem_cons, iff_or_self]
        rintro rfl
        exact hopened
  | unreadable file line lines progress name loc e htarget hexcluded hnew hread =>
      rw [inline_unreadable htarget hexcluded hnew hread] at h
      cases h
  | enter file line lines progress name loc content htarget hexcluded hnew hread ihbody ihrest =>
      rw [inline_enter htarget hexcluded hnew hread] at h
      cases hinner : inline rules (fileTasks loc content) (progress.enter loc name) with
      | error e =>
          rw [hinner] at h
          cases h
      | ok inner =>
          rw [hinner] at h
          obtain ⟨body, hbody, hfirstBody⟩ := ihbody hinner
          obtain ⟨rest, hrest, hfirstRest⟩ := ihrest inner hinner h
          refine ⟨.inlined line name loc body rest,
            .inlined htarget hexcluded hread hbody hrest, ?_⟩
          have hplay : inner = body.play rules (progress.enter loc name) :=
            Except.ok.inj (hinner.symm.trans (inline_eq_play hbody hfirstBody))
          rw [Progress.opened_remark, Progress.opened_endLine, hplay, opened_play] at hfirstRest
          refine inlinesFirst_cons_iff.mpr ⟨by simpa using hnew,
            inlinesFirst_append_iff.mpr ⟨hfirstBody, hfirstRest.congr fun other => ?_⟩⟩
          exact (mem_met_iff_mem_opened hfirstBody other).symm

theorem text_play
    {rules : Rules} {file : Location} {lines : List String} {listing : Listing}
    (hlisting : Describes rules file lines listing) (hlines : ∀ line ∈ lines, line ≠ "")
    {progress : Progress} (hprogress : progress.HasNoEmptyLine) :
    (listing.play rules progress).HasNoEmptyLine ∧
      (listing.play rules progress).text =
        progress.text ++ listing.render rules.keepExcluded := by
  induction hlisting generalizing progress with
  | done => exact ⟨hprogress, by simp [Listing.play, Listing.render]⟩
  | source htarget hrest ih =>
      obtain ⟨hline, hothers⟩ := List.forall_mem_cons.mp hlines
      obtain ⟨hsound, htext⟩ := ih hothers (Progress.hasNoEmptyLine_copySource hprogress hline)
      refine ⟨hsound, ?_⟩
      rw [Listing.play, htext, Progress.text_copySource, Listing.render, String.append_assoc]
  | excluded htarget hexcluded hrest ih =>
      obtain ⟨hline, hothers⟩ := List.forall_mem_cons.mp hlines
      obtain ⟨hsound, htext⟩ :=
        ih hothers (hasNoEmptyLine_passOver rules _ _ hprogress hline)
      refine ⟨hsound, ?_⟩
      rw [Listing.play, htext, text_passOver rules _ _ hprogress hline, Listing.render,
        String.append_assoc, passedText]
      simp only [hexcluded, true_and]
  | repeated htarget hexcluded hrest ih =>
      obtain ⟨hline, hothers⟩ := List.forall_mem_cons.mp hlines
      obtain ⟨hsound, htext⟩ :=
        ih hothers (hasNoEmptyLine_passOver rules _ _ hprogress hline)
      refine ⟨hsound, ?_⟩
      rw [Listing.play, htext, text_passOver rules _ _ hprogress hline, Listing.render,
        String.append_assoc, passedText, if_neg (fun hkept => hexcluded hkept.1)]
  | inlined htarget hexcluded hread hbody hrest ihbody ihrest =>
      obtain ⟨hline, hothers⟩ := List.forall_mem_cons.mp hlines
      obtain ⟨hsoundBody, htextBody⟩ :=
        ihbody (ne_empty_of_readLines hread) (Progress.hasNoEmptyLine_enter hprogress _ _)
      obtain ⟨hsound, htext⟩ := ihrest hothers
        (Progress.hasNoEmptyLine_remark (Progress.hasNoEmptyLine_endLine hsoundBody) .finish _)
      refine ⟨hsound, ?_⟩
      have hstart (progress : Progress) (loc : Location) (name : String) :
          Text.endsLine (progress.enter loc name).text = true := by
        rw [Progress.text_enter, endsLine_append (by simp [Piece.text]),
          Progress.endsLine_remark]
      rw [Listing.play, htext, Progress.text_remark, Progress.text_endLine hsoundBody, htextBody,
        terminated_append (Or.inr (hstart _ _ _)), Progress.text_enter, Listing.render]
      simp only [String.append_assoc]

end CrossGen.Combine
