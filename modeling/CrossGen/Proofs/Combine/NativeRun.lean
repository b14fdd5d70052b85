import CrossGen.Combine.Method
import CrossGen.Proofs.Combine.DepthFirst
import CrossGen.Proofs.Host.Action
import CrossGen.Proofs.Host.Storing

/-!
# Combining without the script

Combining fails exactly if its input leads nowhere or a file that can be reached cannot be read, with
the error of the first such file, depth first.  A run that fails leaves the host as it was, and a run
that succeeds changes no file but the one that the output path leads to, which holds the combined text
then.
-/

namespace CrossGen.Combine

variable {rules : Rules} {files : FileSystem} {loc : Location} {input : Path} {failure : Failure}

/-! ## Files that cannot be read -/

/-- The file cannot be read as text, for the given reason. -/
inductive Unreadable (files : FileSystem) (loc : Location) : IoError → Prop
  | refused {e : IoError} (hcontent : files.contentAt loc = .error e) : Unreadable files loc e
  | notText {bytes : ByteArray} (hcontent : files.contentAt loc = .ok bytes)
      (hdecode : Text.decode? bytes = none) : Unreadable files loc .notText

/-- How it is reported that a file cannot be read. -/
def readingFailure (loc : Location) (e : IoError) : Failure :=
  .combine ("reading " ++ loc.path.text ++ ": " ++ e.message)

theorem readLines_eq_error_iff :
    readLines files loc = .error failure ↔
      ∃ e, Unreadable files loc e ∧ failure = readingFailure loc e := by
  constructor
  · intro h
    unfold readLines at h
    cases hcontent : files.contentAt loc with
    | error e =>
        rw [hcontent] at h
        exact ⟨e, .refused hcontent, (Except.error.inj h).symm⟩
    | ok bytes =>
        cases hdecode : Text.decode? bytes with
        | none =>
            simp only [hcontent, Except.bind, hdecode, Option.elim_none] at h
            exact ⟨_, .notText hcontent hdecode, (Except.error.inj h).symm⟩
        | some text =>
            simp only [hcontent, Except.bind, hdecode, Option.elim_some] at h
            cases h
  · rintro ⟨e, hloc, rfl⟩
    unfold readLines
    cases hloc with
    | refused hcontent =>
        rw [hcontent]
        rfl
    | notText hcontent hdecode =>
        simp only [hcontent, Except.bind, hdecode, Option.elim_none]
        rfl

theorem exists_readLines_iff :
    (∃ lines, readLines files loc = .ok lines) ↔ ∀ e, ¬Unreadable files loc e := by
  constructor
  · rintro ⟨lines, hread⟩ e hloc
    rw [readLines_eq_error_iff.mpr ⟨e, hloc, rfl⟩] at hread
    cases hread
  · intro h
    cases hread : readLines files loc with
    | ok lines => exact ⟨lines, rfl⟩
    | error failure =>
        obtain ⟨e, hloc, -⟩ := readLines_eq_error_iff.mp hread
        exact absurd hloc (h e)

/-! ## When combining fails -/

/-- The failures that combining has to end with: the input leads nowhere, or a file is, depth first,
the first one that cannot be read. -/
inductive HasToFail (rules : Rules) (input : Path) : Failure → Prop
  | input {e : IoError} (hlocate : rules.files.locate rules.here input = .error e) :
      HasToFail rules input (.combine (input.text ++ ": " ++ e.message))
  | reading {start loc : Location} {before after : List Location} {e : IoError}
      (hlocate : rules.files.locate rules.here input = .ok start)
      (horder : DepthFirst rules [] [start] (before ++ loc :: after))
      (hbefore : ∀ other ∈ before, ∀ e, ¬Unreadable rules.files other e)
      (hloc : Unreadable rules.files loc e) :
      HasToFail rules input (readingFailure loc e)

theorem hasToFail_of_firstUnreadable
    {start : Location} {order : List Location}
    (hlocate : rules.files.locate rules.here input = .ok start)
    (horder : DepthFirst rules [] [start] order) (h : FirstUnreadable rules order failure) :
    HasToFail rules input failure := by
  obtain ⟨before, loc, after, rfl, hbefore, hread⟩ := h
  obtain ⟨e, hloc, rfl⟩ := readLines_eq_error_iff.mp hread
  exact .reading hlocate horder (fun other hother => exists_readLines_iff.mp (hbefore other hother))
    hloc

theorem combine_eq_error_iff :
    combine rules input = .error failure ↔ HasToFail rules input failure := by
  constructor
  · intro h
    cases hlocate : rules.files.locate rules.here input with
    | error e =>
        rw [combine_of_locate_error hlocate] at h
        rw [← Except.error.inj h]
        exact .input hlocate
    | ok start =>
        obtain ⟨order, horder⟩ := exists_depthFirst_from rules start
        have hgoes := combine_goesAlong hlocate horder
        rw [h] at hgoes
        exact hasToFail_of_firstUnreadable hlocate horder hgoes
  · intro h
    cases h with
    | input hlocate => exact combine_of_locate_error hlocate
    | @reading start loc before after e hlocate horder hbefore hloc =>
        have hread := readLines_eq_error_iff.mpr ⟨e, hloc, rfl⟩
        have hfirst : FirstUnreadable rules (before ++ loc :: after) (readingFailure loc e) :=
          ⟨before, loc, after, rfl,
            fun other hother => exists_readLines_iff.mpr (hbefore other hother), hread⟩
        have hgoes := combine_goesAlong hlocate horder
        cases hanswer : combine rules input with
        | ok progress =>
            rw [hanswer] at hgoes
            exact absurd hfirst hgoes.2.not_firstUnreadable
        | error other =>
            rw [hanswer] at hgoes
            rw [hfirst.eq hgoes]

theorem exists_text_of_combine_error (h : combine rules input = .error failure) :
    ∃ text, failure = .combine text := by
  cases combine_eq_error_iff.mp h with
  | input hlocate => exact ⟨_, rfl⟩
  | reading hlocate horder hbefore hloc => exact ⟨_, rfl⟩

/-- Combining fails exactly if its input leads nowhere or can reach a file that cannot be read. -/
theorem exists_combine_error_iff :
    (∃ failure, combine rules input = .error failure) ↔
      (∃ e, rules.files.locate rules.here input = .error e) ∨
        ∃ start loc e, rules.files.locate rules.here input = .ok start ∧
          Reachable rules start loc ∧ Unreadable rules.files loc e := by
  constructor
  · rintro ⟨failure, h⟩
    cases combine_eq_error_iff.mp h with
    | input hlocate => exact Or.inl ⟨_, hlocate⟩
    | reading hlocate horder hbefore hloc =>
        have hreach := horder.mem_iff.mp (List.mem_append_right _ List.mem_cons_self)
        exact Or.inr ⟨_, _, _, hlocate, hreach, hloc⟩
  · rintro (⟨e, hlocate⟩ | ⟨start, loc, e, hlocate, hreach, hloc⟩)
    · exact ⟨_, combine_of_locate_error hlocate⟩
    · obtain ⟨order, horder⟩ := exists_depthFirst_from rules start
      have hgoes := combine_goesAlong hlocate horder
      cases hanswer : combine rules input with
      | error failure => exact ⟨failure, rfl⟩
      | ok progress =>
          rw [hanswer] at hgoes
          have hread := hgoes.2 loc (horder.mem_iff.mpr hreach)
          exact absurd hloc (exists_readLines_iff.mp hread e)

/-! ## What a run changes -/

section Run

variable {checkout : Checkout} {plan : Plan} {host : Host}

/-- A failure of combining ends the run before anything is written. -/
theorem runNative_of_error
    (h : combine (plan.rules checkout host) (plan.inputPath checkout) = .error failure) :
    runNative checkout plan host = .error failure host := by
  rw [runNative, bind_get, h]
  rfl

theorem runNative_of_ok
    {progress : Progress}
    (h : combine (plan.rules checkout host) (plan.inputPath checkout) = .ok progress) :
    runNative checkout plan host =
      (do
        Host.failAs .io (Host.writeFile (plan.outputPath checkout) progress.text.toUTF8)
        return plan.outputPath checkout : Act Failure Path) host := by
  rw [runNative, bind_get, h]
  rfl

theorem runNative_of_write_error
    {progress : Progress} {e : IoError}
    (h : combine (plan.rules checkout host) (plan.inputPath checkout) = .ok progress)
    (hwrite : host.files.write host.directory (plan.outputPath checkout)
      progress.text.toUTF8 = .error e) :
    runNative checkout plan host = .error (.io e) host := by
  rw [runNative_of_ok h, bind_of_error (Host.failAs_of_error (Host.writeFile_of_error hwrite) _)]

theorem runNative_of_write
    {progress : Progress} {written : FileSystem}
    (h : combine (plan.rules checkout host) (plan.inputPath checkout) = .ok progress)
    (hwrite : host.files.write host.directory (plan.outputPath checkout)
      progress.text.toUTF8 = .ok written) :
    runNative checkout plan host =
      .ok (plan.outputPath checkout) { host with files := written } := by
  rw [runNative_of_ok h, bind_of_ok (Host.failAs_of_ok (Host.writeFile_of_ok hwrite) _)]
  rfl

variable (checkout plan host) in
/-- A run ends in one of three ways, and changes something in the last one only. -/
theorem runNative_cases :
    (∃ failure, combine (plan.rules checkout host) (plan.inputPath checkout) = .error failure ∧
      runNative checkout plan host = .error failure host) ∨
    (∃ progress e, combine (plan.rules checkout host) (plan.inputPath checkout) = .ok progress ∧
      host.files.write host.directory (plan.outputPath checkout) progress.text.toUTF8 = .error e ∧
      runNative checkout plan host = .error (.io e) host) ∨
    ∃ written, runNative checkout plan host =
      .ok (plan.outputPath checkout) { host with files := written } := by
  cases hcombine : combine (plan.rules checkout host) (plan.inputPath checkout) with
  | error failure => exact Or.inl ⟨failure, rfl, runNative_of_error hcombine⟩
  | ok progress =>
      cases hwrite : host.files.write host.directory (plan.outputPath checkout)
          progress.text.toUTF8 with
      | error e =>
          exact Or.inr (Or.inl ⟨progress, e, rfl, hwrite, runNative_of_write_error hcombine hwrite⟩)
      | ok written => exact Or.inr (Or.inr ⟨written, runNative_of_write hcombine hwrite⟩)

/-- What a run leaves that ends well: the combined text in the file that the output path leads to, or
nothing at all, if that is a device. -/
structure LeavesText (host : Host) (output : Path) (text : String) (after : Host) : Prop where
  /-- Nothing but files has changed. -/
  files : after = { host with files := after.files }
  stored : ∃ place, host.files.place host.directory output = .ok place ∧
    (∀ loc, loc ≠ place.location → after.files.node? loc = host.files.node? loc) ∧
    ((after.files.read after.directory output = .ok text.toUTF8 ∧
        ∃ executable, after.files.node? place.location = some (.file text.toUTF8 executable)) ∨
      (after = host ∧ ∃ kind, host.files.node? place.location = some (.device kind)))

theorem leavesText_of_write
    {output : Path} {text : String} {written : FileSystem}
    (h : host.files.write host.directory output text.toUTF8 = .ok written) :
    LeavesText host output text { host with files := written } := by
  obtain ⟨place, hplace, hstores⟩ := FileSystem.exists_stores_of_write h
  refine ⟨rfl, place, hplace, fun loc hne => hstores.node?_eq hne, ?_⟩
  rcases hstores.exists_file_or_device with ⟨executable, hfile⟩ | ⟨rfl, kind, hdevice⟩
  · exact Or.inl ⟨hstores.read_eq hplace hfile, executable, hfile⟩
  · exact Or.inr ⟨rfl, kind, hdevice⟩

variable (checkout plan host) in
/-- Combining fails exactly if the input leads nowhere or can reach a file that cannot be read, and
with exactly the error that it has to.  Then the run fails with this error and leaves the host as it
was.  Otherwise it leaves the text, or the text cannot be written and nothing changes. -/
theorem runNative_fails_exactly_when_it_has_to :
    ((∃ failure,
        combine (plan.rules checkout host) (plan.inputPath checkout) = .error failure) ↔
      (∃ e, host.files.locate host.directory (plan.inputPath checkout) = .error e) ∨
        ∃ start loc e, host.files.locate host.directory (plan.inputPath checkout) = .ok start ∧
          Reachable (plan.rules checkout host) start loc ∧ Unreadable host.files loc e) ∧
    (∀ failure, combine (plan.rules checkout host) (plan.inputPath checkout) = .error failure ↔
      HasToFail (plan.rules checkout host) (plan.inputPath checkout) failure) ∧
    (∀ failure, combine (plan.rules checkout host) (plan.inputPath checkout) = .error failure →
      runNative checkout plan host = .error failure host) ∧
    ∀ progress, combine (plan.rules checkout host) (plan.inputPath checkout) = .ok progress →
      (∃ after, runNative checkout plan host = .ok (plan.outputPath checkout) after ∧
        LeavesText host (plan.outputPath checkout) progress.text after) ∨
      ∃ e, host.files.write host.directory (plan.outputPath checkout) progress.text.toUTF8 =
          .error e ∧ runNative checkout plan host = .error (.io e) host := by
  refine ⟨exists_combine_error_iff, fun failure => combine_eq_error_iff,
    fun failure => runNative_of_error, ?_⟩
  intro progress hcombine
  cases hwrite : host.files.write host.directory (plan.outputPath checkout)
      progress.text.toUTF8 with
  | error e => exact Or.inr ⟨e, rfl, runNative_of_write_error hcombine hwrite⟩
  | ok written =>
      exact Or.inl ⟨_, runNative_of_write hcombine hwrite, leavesText_of_write hwrite⟩

end Run

/-! ### Two runs -/

/-- A host with the given files in the directory `/w`, and a device that keeps nothing. -/
def workingHost (files : List (String × Node)) : Host :=
  .fresh ⟨(⟨["dev", "null"]⟩, .device .void) :: (⟨["dev"]⟩, .directory) ::
      (⟨["w"]⟩, .directory) :: files.map fun file => (⟨["w", file.1]⟩, file.2)⟩
    ⟨["w"]⟩ .empty fun _ => .error .notFound

def flatPlan (output : Path) : Plan :=
  { scriptDirectory := ⟨"/w"⟩, input := ⟨"a.c"⟩, roots := [], excludes := [], keepExcluded := false,
    output := output }

def sealedHost : Host :=
  workingHost [
    ("a.c", .file "#include \"b.h\"\n#include \"c.h\"\n#include \"d.h\"\n".toUTF8 false),
    ("b.h", .file "int b;\n".toUTF8 false),
    ("c.h", .sealed .accessDenied),
    ("d.h", .file (.mk #[0xFF]) false)]

def sealedRules : Rules :=
  (flatPlan ⟨"one.c"⟩).rules ⟨⟨"/w"⟩⟩ sealedHost

theorem depthFirst_sealedRules :
    DepthFirst sealedRules [] [⟨["w", "a.c"]⟩]
      [⟨["w", "a.c"]⟩, ⟨["w", "b.h"]⟩, ⟨["w", "c.h"]⟩, ⟨["w", "d.h"]⟩] := by
  have hfirst : sealedRules.includes ⟨["w", "a.c"]⟩ =
      [⟨["w", "b.h"]⟩, ⟨["w", "c.h"]⟩, ⟨["w", "d.h"]⟩] := by
    decide +kernel
  have hleaf : ∀ name ∈ ["b.h", "c.h", "d.h"], sealedRules.includes ⟨["w", name]⟩ = [] := by
    decide +kernel
  have hbelow (name : String) (hname : name ∈ ["b.h", "c.h", "d.h"]) (seen : List Location) :
      DepthFirst sealedRules seen (sealedRules.includes ⟨["w", name]⟩) [] := by
    rw [hleaf name hname]
    exact .done
  have hinner : DepthFirst sealedRules [⟨["w", "a.c"]⟩] (sealedRules.includes ⟨["w", "a.c"]⟩)
      [⟨["w", "b.h"]⟩, ⟨["w", "c.h"]⟩, ⟨["w", "d.h"]⟩] := by
    rw [hfirst]
    refine .visit (by decide) (hbelow "b.h" (by decide) _) ?_
    refine .visit (by decide) (hbelow "c.h" (by decide) _) ?_
    exact .visit (by decide) (hbelow "d.h" (by decide) _) .done
  exact .visit List.not_mem_nil hinner .done

/-- The run ends at the first of the two headers, and the host is as it was. -/
theorem runNative_sealedHost :
    runNative ⟨⟨"/w"⟩⟩ (flatPlan ⟨"one.c"⟩) sealedHost =
      .error (.combine "reading /w/c.h: Permission denied (os error 13)") sealedHost := by
  have hlocate : sealedHost.files.locate ⟨["w"]⟩ ⟨"/w/a.c"⟩ = .ok ⟨["w", "a.c"]⟩ := by rfl
  have hreadable : ∀ other ∈ [(⟨["w", "a.c"]⟩ : Location), ⟨["w", "b.h"]⟩],
      ∀ e, ¬Unreadable sealedHost.files other e := by
    intro other hother
    apply exists_readLines_iff.mp
    rcases List.mem_cons.mp hother with rfl | hother
    · exact ⟨_, by rfl⟩
    · obtain rfl := List.mem_singleton.mp hother
      exact ⟨_, by rfl⟩
  have hsealed : Unreadable sealedHost.files ⟨["w", "c.h"]⟩ .accessDenied := .refused (by rfl)
  have horder : DepthFirst sealedRules [] [⟨["w", "a.c"]⟩]
      ([⟨["w", "a.c"]⟩, ⟨["w", "b.h"]⟩] ++ ⟨["w", "c.h"]⟩ :: [⟨["w", "d.h"]⟩]) :=
    depthFirst_sealedRules
  have hfails : HasToFail sealedRules ⟨"/w/a.c"⟩ (readingFailure ⟨["w", "c.h"]⟩ .accessDenied) :=
    .reading hlocate horder hreadable hsealed
  obtain ⟨-, herror, hrun, -⟩ :=
    runNative_fails_exactly_when_it_has_to ⟨⟨"/w"⟩⟩ (flatPlan ⟨"one.c"⟩) sealedHost
  exact hrun _ ((herror _).mpr hfails)

def plainHost : Host :=
  workingHost [("a.c", .file "int a;\n".toUTF8 false)]

/-- A device takes the combined text, and has none afterwards. -/
theorem device_keeps_no_combined_text :
    ∃ progress after,
      combine ((flatPlan ⟨"/dev/null"⟩).rules ⟨⟨"/w"⟩⟩ plainHost)
          ((flatPlan ⟨"/dev/null"⟩).inputPath ⟨⟨"/w"⟩⟩) = .ok progress ∧
        runNative ⟨⟨"/w"⟩⟩ (flatPlan ⟨"/dev/null"⟩) plainHost = .ok ⟨"/dev/null"⟩ after ∧
        after.files.read after.directory ⟨"/dev/null"⟩ ≠ .ok progress.text.toUTF8 := by
  have hread : readLines plainHost.files ⟨["w", "a.c"]⟩ = .ok ["int a;\n"] := by rfl
  have hlocate : plainHost.files.locate ⟨["w"]⟩ ⟨"/w/a.c"⟩ = .ok ⟨["w", "a.c"]⟩ := by rfl
  have hvisits : FirstVisits ((flatPlan ⟨"/dev/null"⟩).rules ⟨⟨"/w"⟩⟩ plainHost) ⟨["w", "a.c"]⟩
      (.source "int a;\n" .done) := by
    constructor
    · exact ⟨_, hread, .source (by decide +kernel) .done⟩
    · exact inlinesFirst_nil _
  have hcombine := combine_eq_ok_iff.mpr ⟨_, _, hlocate, hvisits, rfl⟩
  have htext := hvisits.text_play
  refine ⟨_, plainHost, hcombine, ?_, ?_⟩
  · exact runNative_of_write hcombine (by rw [htext]; rfl)
  · rw [htext]
    decide +kernel

end CrossGen.Combine
