import CrossGen.Checkout
import CrossGen.Proofs.Host.Launching

/-!
# The patch that is read and the patch that is applied

The patch is read from the directory that the program runs in, and `git` is started in the directory
of the sources with the path as it was given.  Both mean the same file if the path is absolute or the
sources lie where the program runs.  For other paths they need not, and then a patch that fits can be
taken for one that has drifted.
-/

namespace CrossGen.Checkout

/-! ## How git is started -/

theorem launch_applyCommand
    {host : Host} {checkout : Checkout} {patch : Path} {tryOnly : Bool} {launch : Launch}
    (h : host.launch false (checkout.applyCommand patch tryOnly) = .ok launch) :
    launch.args.getLast? = some patch.text ∧ launch.files = host.files ∧
      host.files.locate host.directory checkout.source = .ok launch.directory := by
  obtain ⟨-, loc, hsource, -, rfl⟩ := (Host.launch_eq_ok_iff_of_directory rfl).mp h
  exact ⟨List.getLast?_concat, rfl, hsource⟩

/-- The dry run can be started if the sources are in a directory and no path holds a NUL. -/
theorem exists_launch_tryPatch
    {host : Host} {checkout : Checkout} {patch : Path} {dir : Location}
    (hpatch : holdsNul patch.text = false)
    (hsource : host.files.locate host.directory checkout.source = .ok dir)
    (hdir : host.files.node? dir = some .directory) :
    ∃ launch, host.launch false (checkout.applyCommand patch true) = .ok launch ∧
      launch.program = "git" ∧ launch.args = ["apply", "--check", patch.text] ∧
      launch.directory = dir ∧ launch.files = host.files := by
  have hnul : (checkout.applyCommand patch true).texts.any holdsNul = false := by
    have hwords : ["git", "apply", "--check"].any holdsNul = false := by decide
    show (["git", "apply", "--check"] ++ [patch.text, checkout.source.text]).any holdsNul = false
    rw [List.any_append, hwords]
    simp [hpatch, FileSystem.not_holdsNul_of_locate hsource]
  exact ⟨_, (Host.launch_eq_ok_iff_of_directory rfl).mpr ⟨hnul, dir, hsource, hdir, rfl⟩, rfl, rfl,
    rfl, rfl⟩

/-- The file that the path means to `git` is the one that it means to the program itself, if the path
is absolute or the sources lie where the program runs. -/
theorem locate_eq_of_launch
    {host : Host} {checkout : Checkout} {patch : Path} {tryOnly : Bool} {launch : Launch}
    (hpatch : patch.isAbsolute = true ∨
      host.files.locate host.directory checkout.source = .ok host.directory)
    (h : host.launch false (checkout.applyCommand patch tryOnly) = .ok launch) :
    launch.files.locate launch.directory patch = host.files.locate host.directory patch := by
  obtain ⟨-, hfiles, hsource⟩ := launch_applyCommand h
  rw [hfiles]
  rcases hpatch with habsolute | hhere
  · exact FileSystem.locate_of_isAbsolute habsolute _ _ _
  · rw [hhere] at hsource
    rw [Except.ok.inj hsource]

/-! ## What a dry run that fails says -/

/-- `git` takes an argument as the name of a file unless it begins with a dash.  Otherwise it is an
option, or stands for the standard input. -/
def NamesFile (patch : Path) : Prop :=
  patch.text.toList.head? ≠ some '-'

theorem namesFile_of_isAbsolute {patch : Path} (h : patch.isAbsolute = true) : NamesFile patch := by
  intro hdash
  rw [Path.isAbsolute, hdash] at h
  cases h

/-- On this machine `git` judges the patch that it is pointed at: a dry run succeeds if the name of a
file leads to one that can be read from the directory that `git` is started in, and its content fits
what is there. -/
def JudgesPatches (machine : Machine) (fits : ByteArray → FileSystem → Location → Prop) : Prop :=
  ∀ (launch : Launch) (patch : Path), NamesFile patch →
    launch.program = "git" → launch.args = ["apply", "--check", patch.text] →
      ∃ outcome, machine launch = .ok outcome ∧
        (outcome.ending.isSuccess = true ↔
          ∃ content, launch.files.read launch.directory patch = .ok content ∧
            fits content launch.files launch.directory)

theorem applyPatch_patchDrift_iff
    {host : Host} {checkout : Checkout} {patch : Path} {content : ByteArray} {outcome : Outcome}
    (hread : host.files.read host.directory patch = .ok content)
    (hrun : (host.launch false (checkout.applyCommand patch true)).bind host.machine =
      .ok outcome) :
    (∃ t, checkout.applyPatch patch host = .error (.patchDrift patch) t) ↔
      outcome.ending.isSuccess = false := by
  obtain ⟨next, hshown⟩ := Host.executeShown_of_ok (fun stream => stream == .err) hrun
  rw [applyPatch, bind_of_ok (Host.failAs_of_ok (Host.readFile_of_ok hread) _)]
  cases hending : outcome.ending.isSuccess with
  | false =>
      have htry : checkout.tryPatch patch host = .error (.patchDrift patch) next := by
        rw [tryPatch, bind_of_ok (Host.failAs_of_ok hshown _), hending]
        rfl
      rw [bind_of_error htry]
      exact iff_of_true ⟨next, rfl⟩ rfl
  | true =>
      have htry : checkout.tryPatch patch host = .ok () next := by
        rw [tryPatch, bind_of_ok (Host.failAs_of_ok hshown _), hending]
        rfl
      rw [bind_of_ok htry]
      refine iff_of_false ?_ Bool.noConfusion
      rintro ⟨t, ht⟩
      cases happly : Host.runTool (checkout.applyCommand patch false) next with
      | ok done host =>
          rw [Host.failAs_of_ok happly] at ht
          cases ht
      | error e host =>
          rw [Host.failAs_of_error happly] at ht
          cases ht

/-! ## Absolute paths -/

/-- With an absolute path, or sources that lie where the program runs, `git` is pointed at the patch
that was read, by the dry run and by the real one.  A drift is then reported exactly if the patch that
was read does not fit. -/
theorem git_is_pointed_at_patch_read
    {host : Host} {checkout : Checkout} {patch : Path}
    (hpatch : patch.isAbsolute = true ∨
      host.files.locate host.directory checkout.source = .ok host.directory) :
    (∀ tryOnly launch, host.launch false (checkout.applyCommand patch tryOnly) = .ok launch →
      launch.args.getLast? = some patch.text ∧
        launch.files.locate launch.directory patch = host.files.locate host.directory patch ∧
        launch.files.read launch.directory patch = host.files.read host.directory patch) ∧
    ∀ fits content dir, JudgesPatches host.machine fits → NamesFile patch →
      host.files.read host.directory patch = .ok content →
      host.files.locate host.directory checkout.source = .ok dir →
      host.files.node? dir = some .directory →
        ((∃ t, checkout.applyPatch patch host = .error (.patchDrift patch) t) ↔
          ¬fits content host.files dir) := by
  have hread : ∀ tryOnly launch,
      host.launch false (checkout.applyCommand patch tryOnly) = .ok launch →
        launch.files.read launch.directory patch = host.files.read host.directory patch := by
    intro tryOnly launch hlaunch
    obtain ⟨-, hfiles, -⟩ := launch_applyCommand hlaunch
    have hlocate := locate_eq_of_launch hpatch hlaunch
    rw [hfiles] at hlocate ⊢
    exact FileSystem.read_eq_of_locate_eq hlocate
  refine ⟨fun tryOnly launch hlaunch => ⟨(launch_applyCommand hlaunch).1,
    locate_eq_of_launch hpatch hlaunch, hread tryOnly launch hlaunch⟩, ?_⟩
  intro fits content dir hjudges hname hcontent hsource hdir
  obtain ⟨loc, hloc⟩ := FileSystem.exists_locate_of_read hcontent
  obtain ⟨launch, hlaunch, hprogram, hargs, rfl, hfiles⟩ :=
    exists_launch_tryPatch (FileSystem.not_holdsNul_of_locate hloc) hsource hdir
  obtain ⟨outcome, houtcome, hsuccess⟩ := hjudges launch patch hname hprogram hargs
  have hrun : (host.launch false (checkout.applyCommand patch true)).bind host.machine =
      .ok outcome := by
    rw [hlaunch]
    exact houtcome
  rw [applyPatch_patchDrift_iff hcontent hrun, ← Bool.not_eq_true, hsuccess,
    hread true launch hlaunch, hcontent, hfiles]
  simp

/-! ### A patch beside the checkout -/

/-- A machine on which every tool succeeds if it can read the file that its last argument names, and
what is read fits where the tool is started. -/
def judgingMachine (fits : ByteArray → FileSystem → Location → Bool) : Machine := fun launch =>
  let patch : Path := ⟨launch.args.getLastD ""⟩
  let ending : Ending :=
    match launch.files.read launch.directory patch with
    | .ok content => if fits content launch.files launch.directory then .exited 0 else .exited 1
    | .error _ => .exited 128
  .ok ⟨ending, [], launch.files, fun _ => launch.files, 0⟩

theorem judgingMachine_judgesPatches (fits : ByteArray → FileSystem → Location → Bool) :
    JudgesPatches (judgingMachine fits) fun content files dir => fits content files dir = true := by
  intro launch patch _ _ hargs
  have hlast : (⟨launch.args.getLastD ""⟩ : Path) = patch := by
    rw [hargs]
    rfl
  refine ⟨_, rfl, ?_⟩
  rw [hlast]
  cases hread : launch.files.read launch.directory patch with
  | error e => simp [Ending.isSuccess]
  | ok content =>
      cases hfits : fits content launch.files launch.directory with
      | false => simp [Ending.isSuccess, hfits]
      | true => simp [Ending.isSuccess, hfits]

/-- A patch that changes the only line of a file. -/
def levelPatch : ByteArray :=
  "--- a/level.h\n+++ b/level.h\n@@ -1 +1 @@\n-int level;\n+long level;\n".toUTF8

/-- The patch fits where the file has the line that is taken out, and no other patch is known. -/
def fitsLevel (content : ByteArray) (files : FileSystem) (dir : Location) : Bool :=
  decide (content = levelPatch ∧
    (files.read dir ⟨"level.h"⟩).toOption = some "int level;\n".toUTF8)

/-- A directory with the patch and, in a directory of their own, the sources that it was made for. -/
def patchHost : Host :=
  .fresh
    ⟨[(⟨["fix.patch"]⟩, .file levelPatch false), (⟨["w"]⟩, .directory),
      (⟨["w", "zstd"]⟩, .directory),
      (⟨["w", "zstd", "level.h"]⟩, .file "int level;\n".toUTF8 false)]⟩
    .root .empty (judgingMachine fitsLevel)

theorem fitsLevel_patchHost : fitsLevel levelPatch patchHost.files ⟨["w", "zstd"]⟩ = true := by
  decide +kernel

/-- A patch that is named from where the program runs is sought among the sources.  It has been read
and fits them, and yet it is reported as drifted. -/
theorem relative_patch_is_sought_among_sources :
    JudgesPatches patchHost.machine
        (fun content files dir => fitsLevel content files dir = true) ∧
      NamesFile ⟨"fix.patch"⟩ ∧
      patchHost.files.read patchHost.directory ⟨"fix.patch"⟩ = .ok levelPatch ∧
      fitsLevel levelPatch patchHost.files ⟨["w", "zstd"]⟩ = true ∧
      patchHost.files.locate patchHost.directory ⟨"fix.patch"⟩ = .ok ⟨["fix.patch"]⟩ ∧
      (∃ launch,
        patchHost.launch false (applyCommand ⟨⟨"w"⟩⟩ ⟨"fix.patch"⟩ true) = .ok launch ∧
        launch.directory = ⟨["w", "zstd"]⟩ ∧
        launch.args.getLast? = some "fix.patch" ∧
        launch.files.locate launch.directory ⟨"fix.patch"⟩ = .error .notFound) ∧
      ∃ t, applyPatch ⟨⟨"w"⟩⟩ ⟨"fix.patch"⟩ patchHost = .error (.patchDrift ⟨"fix.patch"⟩) t :=
  ⟨judgingMachine_judgesPatches fitsLevel,
    (by decide : "fix.patch".toList.head? ≠ some '-'), by rfl, fitsLevel_patchHost, by rfl,
    ⟨_, by rfl, by rfl, by rfl, by rfl⟩, ⟨_, by rfl⟩⟩

/-- The same patch is found under its absolute path. -/
theorem absolute_patch_is_not_drifted :
    (⟨"/fix.patch"⟩ : Path).isAbsolute = true ∧
      ¬∃ t, applyPatch ⟨⟨"w"⟩⟩ ⟨"/fix.patch"⟩ patchHost =
        .error (.patchDrift ⟨"/fix.patch"⟩) t := by
  have habsolute : (⟨"/fix.patch"⟩ : Path).isAbsolute = true := by decide
  have hdrift := (@git_is_pointed_at_patch_read patchHost ⟨⟨"w"⟩⟩ ⟨"/fix.patch"⟩
    (.inl habsolute)).2 (fun content files dir => fitsLevel content files dir = true) levelPatch
    ⟨["w", "zstd"]⟩ (judgingMachine_judgesPatches fitsLevel) (namesFile_of_isAbsolute habsolute)
    (by rfl) (by rfl) (by rfl)
  exact ⟨habsolute, fun h => hdrift.mp h fitsLevel_patchHost⟩

end CrossGen.Checkout
