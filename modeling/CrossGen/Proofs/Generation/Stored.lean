import CrossGen.Proofs.Generation.Ending
import CrossGen.Proofs.Host.Naming
import CrossGen.Proofs.Host.Writing
import CrossGen.Proofs.Target.Resolution
import CrossGen.Proofs.Transpiler.OutputName

/-!
# Reports and the files that are stored

A file is described as soon as its own target has been transpiled, and the run goes on.  If every call
of the transpiler writes nothing but its own output, what is said of a file stays true until a later
output leads to the same file.  That never happens to a single target, nor to different targets
under plain names; it does happen to a target that is listed twice.
-/

namespace CrossGen

/-- A file holds what was reported of it. -/
def GeneratedFile.Stored (file : GeneratedFile) (host : Host) : Prop :=
  ∃ content, host.files.read host.directory file.path = .ok content ∧
    file.size = content.size ∧ file.digest = Digest.sha256 content

/-- Two paths lead to one regular file. -/
def Host.SameFile (host : Host) (p q : Path) : Prop :=
  ∃ loc, host.files.fileAt? host.directory p = some loc ∧
    host.files.fileAt? host.directory q = some loc

namespace Generation

variable {stages : Stages} {configuration : Configuration} {shape : Shape} {combined : Path}

/-! ## Calls that write nothing but their output -/

/-- Each call of the transpiler that is made for these entries writes the output path that it is
given, and nothing else. -/
def WritesOutputsOnly (stages : Stages) (configuration : Configuration) (shape : Shape)
    (combined : Path) (s : Run) (entries : List Entry) : Prop :=
  ∀ done entry rest files u host, entries = done ++ entry :: rest →
    Completed stages configuration shape combined s done files u →
    stages.transpile (taskOf configuration combined entry) u.host = .ok () host →
      Host.WritesOnly (outputOf configuration entry) u.host host

theorem WritesOutputsOnly.nil (s : Run) :
    WritesOutputsOnly stages configuration shape combined s [] := by
  intro done entry rest files u host hentries
  simp at hentries

theorem WritesOutputsOnly.cons
    {s : Run} {entry : Entry} {rest : List Entry}
    (hfirst : ∀ host, stages.transpile (taskOf configuration combined entry) s.host = .ok () host →
      Host.WritesOnly (outputOf configuration entry) s.host host)
    (hrest : ∀ file t, Produces stages configuration shape combined s entry file t →
      WritesOutputsOnly stages configuration shape combined t rest) :
    WritesOutputsOnly stages configuration shape combined s (entry :: rest) := by
  intro done other later files u host hentries hdone htranspile
  cases hdone with
  | nil s =>
      cases hentries
      exact hfirst host htranspile
  | cons first others =>
      cases hentries
      exact hrest _ _ first _ _ _ _ _ _ rfl others htranspile

theorem WritesOutputsOnly.drop
    {s t : Run} {done rest : List Entry} {files : List GeneratedFile}
    (h : WritesOutputsOnly stages configuration shape combined s (done ++ rest))
    (hdone : Completed stages configuration shape combined s done files t) :
    WritesOutputsOnly stages configuration shape combined t rest := by
  rintro following entry others files' u host rfl hfollowing htranspile
  exact h (done ++ following) entry others _ u host (List.append_assoc _ _ _).symm
    (hdone.append hfollowing) htranspile

theorem WritesOutputsOnly.writesOnly
    {s t : Run} {entry : Entry} {rest : List Entry} {file : GeneratedFile}
    (h : WritesOutputsOnly stages configuration shape combined s (entry :: rest))
    (hproduces : Produces stages configuration shape combined s entry file t) :
    Host.WritesOnly (outputOf configuration entry) s.host t.host := by
  cases hproduces with
  | intro supported transpiled present readable =>
      exact h [] entry rest [] s _ rfl (.nil s) transpiled

/-- A path that leads to a file leads to it still when further entries have been produced. -/
theorem Completed.fileAt?_eq
    {s t : Run} {entries : List Entry} {files : List GeneratedFile} {p : Path} {loc : Location}
    (h : Completed stages configuration shape combined s entries files t)
    (hwrites : WritesOutputsOnly stages configuration shape combined s entries)
    (hfile : s.host.files.fileAt? s.host.directory p = some loc) :
    t.host.files.fileAt? t.host.directory p = some loc := by
  induction h with
  | nil s => exact hfile
  | cons first others ih =>
      have honly := hwrites.writesOnly first
      refine ih (hwrites.drop (.cons first (.nil _))) ?_
      rw [honly.directory]
      exact honly.written.fileAt?_eq hfile

/-- A file holds what it held before further entries were produced, unless the output of one of them
leads to it. -/
theorem Completed.read_eq
    {s t : Run} {entries : List Entry} {files : List GeneratedFile} {p : Path} {loc : Location}
    (h : Completed stages configuration shape combined s entries files t)
    (hwrites : WritesOutputsOnly stages configuration shape combined s entries)
    (hfile : s.host.files.fileAt? s.host.directory p = some loc)
    (hne : ∀ other ∈ entries,
      t.host.files.fileAt? t.host.directory (outputOf configuration other) ≠ some loc) :
    t.host.files.read t.host.directory p = s.host.files.read s.host.directory p := by
  induction h with
  | nil s => rfl
  | @cons s u t entry file rest files first others ih =>
      have honly := hwrites.writesOnly first
      have hrest := hwrites.drop (.cons first (.nil _))
      have hkept : u.host.files.fileAt? u.host.directory p = some loc := by
        rw [honly.directory]
        exact honly.written.fileAt?_eq hfile
      -- An output that led to the file after its own call would lead there at the end as well.
      have houtput : u.host.files.fileAt? u.host.directory (outputOf configuration entry) ≠
          some loc := fun hsame =>
        hne entry List.mem_cons_self (others.fileAt?_eq hrest hsame)
      rw [ih hrest hkept fun other hother => hne other (List.mem_cons_of_mem _ hother)]
      exact honly.read_eq hfile houtput

/-! ## What is said of a file -/

/-- Right after its call, the output of an entry is a file that holds what is reported of it. -/
theorem Produces.stored
    {s t : Run} {entry : Entry} {file : GeneratedFile}
    (h : Produces stages configuration shape combined s entry file t) :
    file.path = outputOf configuration entry ∧
      (∃ loc, t.host.files.fileAt? t.host.directory (outputOf configuration entry) = some loc) ∧
      file.Stored t.host := by
  cases h with
  | intro supported transpiled present readable =>
      exact ⟨rfl, Option.isSome_iff_exists.mp present, _, readable, rfl, rfl⟩

/-- What is said of a file stays true, unless a later output leads to the same file. -/
theorem Completed.stored
    {s t : Run} {before later : List Entry} {entry : Entry} {files : List GeneratedFile}
    (h : Completed stages configuration shape combined s (before ++ entry :: later) files t)
    (hwrites : WritesOutputsOnly stages configuration shape combined s (before ++ entry :: later))
    (hne : ∀ other ∈ later,
      ¬t.host.SameFile (outputOf configuration entry) (outputOf configuration other)) :
    ∃ file, files[before.length]? = some file ∧ file.Stored t.host := by
  obtain ⟨done, file, others, u, v, rfl, hbefore, hentry, hlater⟩ := h.exists_produces
  have hfrom := hwrites.drop hbefore
  have hrest := hfrom.drop (.cons hentry (.nil _))
  obtain ⟨hpath, ⟨loc, hloc⟩, content, hread, hsize, hdigest⟩ := hentry.stored
  have hkept := hlater.read_eq hrest hloc fun other hother hsame =>
    hne other hother ⟨loc, hlater.fileAt?_eq hrest hloc, hsame⟩
  refine ⟨file, by simp [← hbefore.length_eq], content, ?_, hsize, hdigest⟩
  rw [hpath] at hread ⊢
  rw [hkept, hread]

/-- All files hold what is said of them, if no two outputs lead to the same file. -/
theorem Completed.forall_stored
    {s t : Run} {entries : List Entry} {files : List GeneratedFile}
    (h : Completed stages configuration shape combined s entries files t)
    (hwrites : WritesOutputsOnly stages configuration shape combined s entries)
    (hapart : entries.Pairwise fun entry other =>
      ¬t.host.SameFile (outputOf configuration entry) (outputOf configuration other)) :
    ∀ file ∈ files, file.Stored t.host := by
  induction h with
  | nil s => exact nofun
  | @cons s u t entry file rest files first others ih =>
      obtain ⟨hfirst, hrest⟩ := List.pairwise_cons.mp hapart
      obtain ⟨_, ⟨⟩, hstored⟩ := @Completed.stored _ _ _ _ _ _ [] _ _ _ (.cons first others)
        hwrites hfirst
      exact List.forall_mem_cons.mpr ⟨hstored, ih (hwrites.drop (.cons first (.nil _))) hrest⟩

/-! ## Outputs that are apart -/

def outputName (configuration : Configuration) (target : Target) : String :=
  configuration.settings.outputStem ++ "_" ++ target.key ++ "." ++
    configuration.settings.outputExtension

theorem outputName_inj {target other : Target}
    (h : outputName configuration target = outputName configuration other) : target = other := by
  have hsame : configuration.settings.outputName target =
      configuration.settings.outputName other := h
  exact Settings.outputName_inj hsame

theorem outputName_ne_of_notMem {target : Target} {name : String} (h : '_' ∉ name.toList) :
    outputName configuration target ≠ name := by
  have hname : configuration.settings.outputName target ≠ name :=
    Settings.outputName_ne_of_notMem h
  exact hname

/-- The targets are different, and their outputs have plain names that no link bears. -/
structure SeparateOutputs (configuration : Configuration) (entries : List Entry)
    (host : Host) : Prop where
  distinct : (entries.map Entry.target).Nodup
  plain : ∀ entry ∈ entries, '/' ∉ (outputName configuration entry.target).toList
  linkFree : ∀ entry ∈ entries, host.files.LinkFree (outputName configuration entry.target)

theorem SeparateOutputs.pairwise
    {entries : List Entry} {host : Host} (h : SeparateOutputs configuration entries host) :
    entries.Pairwise fun entry other =>
      ¬host.SameFile (outputOf configuration entry) (outputOf configuration other) := by
  have hname : ∀ entry ∈ entries, Path.PlainName (outputName configuration entry.target) :=
    fun entry hentry => ⟨outputName_ne_of_notMem (by decide), h.plain entry hentry⟩
  have hdots : ∀ target : Target,
      outputName configuration target ≠ "." ∧ outputName configuration target ≠ ".." := fun _ =>
    ⟨outputName_ne_of_notMem (by decide), outputName_ne_of_notMem (by decide)⟩
  refine (List.pairwise_map.mp h.distinct).imp_of_mem ?_
  rintro entry other hentry hother hne ⟨loc, hloc, hotherLoc⟩
  have hsame : outputName configuration entry.target = outputName configuration other.target :=
    FileSystem.name_eq_of_locate_div (hname entry hentry) (hname other hother) (hdots _) (hdots _)
      (h.linkFree entry hentry) (h.linkFree other hother)
      (FileSystem.fileAt?_eq_some_iff.mp hloc).1 (FileSystem.fileAt?_eq_some_iff.mp hotherLoc).1
  exact hne (outputName_inj hsame)

/-! ## Whole runs -/

/-- Each call of the transpiler that a run makes writes the output path that it is given, and nothing
else. -/
def RunWritesOutputsOnly (stages : Stages) (configuration : Configuration) (matrix : Matrix)
    (start : Run) : Prop :=
  ∀ host checkout combined t,
    Host.makeDirectories configuration.output start.host = .ok () host →
    Prepares stages configuration ⟨host, start.calls⟩ checkout combined t →
      WritesOutputsOnly stages configuration matrix.shape combined t matrix.entries

variable {env : Environment} {platform : Platform} {matrix : Matrix} {start t : Run}
  {report : Report}

theorem exists_completed_of_run
    (hwrites : RunWritesOutputsOnly stages configuration matrix start)
    (hrun : run stages configuration matrix start = .ok report t) :
    ∃ combined s,
      Completed stages configuration matrix.shape combined s matrix.entries report.files t ∧
      WritesOutputsOnly stages configuration matrix.shape combined s matrix.entries := by
  obtain ⟨host, checkout, combined, files, -, hdirectory, hreturns, rfl⟩ :=
    exists_returns_of_run hrun
  cases hreturns with
  | intro prepared completed =>
      exact ⟨combined, _, completed, hwrites _ _ _ _ hdirectory prepared⟩

/-- A report describes the entries of the matrix in order.  What it says of a file is true of what is
stored when the run returns, unless the output of a later entry leads to the same file.  That does
not happen to a single target, nor to different targets with plain names that no link bears. -/
theorem report_describes_stored_files
    (hresolve : Matrix.resolve env platform = .ok matrix)
    (hwrites : RunWritesOutputsOnly stages configuration matrix start)
    (hrun : run stages configuration matrix start = .ok report t) :
    report.files.map (fun file => (file.target, file.compiler, file.path)) =
        matrix.entries.map
          (fun entry => (entry.target, entry.compiler, outputOf configuration entry)) ∧
      (∀ before entry later, matrix.entries = before ++ entry :: later →
        (∀ other ∈ later,
          ¬t.host.SameFile (outputOf configuration entry) (outputOf configuration other)) →
          ∃ file, report.files[before.length]? = some file ∧ file.Stored t.host) ∧
      (matrix.shape = .single ∨ SeparateOutputs configuration matrix.entries t.host →
        ∀ file ∈ report.files, file.Stored t.host) := by
  obtain ⟨combined, s, hcompleted, honly⟩ := exists_completed_of_run hwrites hrun
  refine ⟨hcompleted.files_eq, ?_, ?_⟩
  · intro before entry later hentries hapart
    rw [hentries] at hcompleted honly
    exact hcompleted.stored honly hapart
  · intro h
    refine hcompleted.forall_stored honly ?_
    rcases h with hsingle | hseparate
    · obtain ⟨entry, hentry⟩ := Matrix.exists_entry_of_single hresolve hsingle
      rw [hentry]
      exact List.pairwise_singleton _ _
    · exact hseparate.pairwise

/-! ### A transpiler that writes the name of its compiler -/

/-- The files after the name of the compiler of an entry has been written into its output. -/
def signed (files : FileSystem) (target : Target) (compiler : Option String) : FileSystem :=
  files.put ⟨["gen", outputName plainConfiguration target]⟩
    (.file (compiler.getD "").toUTF8 false)

theorem linkFree_signed
    {files : FileSystem} {name : String} (h : files.LinkFree name) (target : Target)
    (compiler : Option String) :
    (signed files target compiler).LinkFree name := by
  unfold signed
  exact h.put (by simp) _

/-- Stages whose transpiler does that. -/
def signing : Stages :=
  { willing with
    transpile := fun task => modify fun host =>
      { host with files := signed host.files task.target task.compiler } }

/-- The name of the compiler can be written into the output of an entry, and is found there. -/
structure Signable (files : FileSystem) (entry : Entry) : Prop where
  supported : Shape.matrix.supports entry.target.system = true
  leads : ∃ place, files.place .root (outputOf plainConfiguration entry) = .ok place ∧
    place.location = ⟨["gen", outputName plainConfiguration entry.target]⟩
  free : ((files.node? ⟨["gen", outputName plainConfiguration entry.target]⟩).all
    Node.isFile) = true
  present : (signed files entry.target entry.compiler).isFile .root
    (outputOf plainConfiguration entry) = true
  readable : (signed files entry.target entry.compiler).read .root
    (outputOf plainConfiguration entry) = .ok (entry.compiler.getD "").toUTF8

namespace Signable

variable {files : FileSystem} {entry : Entry}

theorem writesOnly (h : Signable files entry) :
    Host.WritesOnly (outputOf plainConfiguration entry) (hostWith files)
      (hostWith (signed files entry.target entry.compiler)) := by
  obtain ⟨place, hplace, hlocation⟩ := h.leads
  have hroot : place.location ≠ .root := by
    rw [hlocation]
    exact nofun
  have hfile : ∀ node, files.node? place.location = some node → node.isFile = true := by
    intro node hnode
    have hfree := h.free
    rw [← hlocation, hnode] at hfree
    exact hfree
  have honly := Host.WritesOnly.put (entry.compiler.getD "").toUTF8
    (by exact hplace : (hostWith files).files.place (hostWith files).directory _ = _) hroot hfile
  rw [hlocation] at honly
  exact honly

theorem produces (h : Signable files entry) (calls : List Call) :
    Produces signing plainConfiguration .matrix combined ⟨hostWith files, calls⟩ entry
      ⟨entry.target, outputOf plainConfiguration entry, (entry.compiler.getD "").toUTF8.size,
        Digest.sha256 (entry.compiler.getD "").toUTF8, entry.compiler⟩
      ⟨hostWith (signed files entry.target entry.compiler),
        calls ++ [callOf plainConfiguration combined entry]⟩ :=
  .intro h.supported rfl h.present h.readable

end Signable

def outputDirectory : FileSystem :=
  FileSystem.empty.put ⟨["gen"]⟩ .directory

theorem linkFree_outputDirectory (name : String) : outputDirectory.LinkFree name := by
  unfold outputDirectory
  exact (FileSystem.linkFree_empty name).put (by simp) _

theorem makeDirectories_outputDirectory :
    Host.makeDirectories plainConfiguration.output (hostWith ⟨[]⟩) =
      .ok () (hostWith outputDirectory) := by
  rfl

section TwoEntries

variable {first second : Entry} (hfirst : Signable outputDirectory first)
  (hsecond : Signable (signed outputDirectory first.target first.compiler) second)

include hfirst hsecond

theorem signing_runWritesOutputsOnly :
    RunWritesOutputsOnly signing plainConfiguration ⟨.matrix, [first, second]⟩
      ⟨hostWith ⟨[]⟩, []⟩ := by
  intro host checkout combined t hdirectory hprepared
  obtain ⟨-, rfl⟩ :=
    EStateM.Result.ok.inj (makeDirectories_outputDirectory.symm.trans hdirectory)
  obtain ⟨fetch, patch, combine⟩ := hprepared
  cases fetch
  cases patch
  cases combine
  refine .cons ?_ fun file t hproduces => .cons ?_ fun _ _ _ => .nil _
  · intro after htranspile
    obtain ⟨-, rfl⟩ := EStateM.Result.ok.inj htranspile
    exact hfirst.writesOnly
  · intro after htranspile
    obtain ⟨-, transpiled, -, -⟩ := hproduces
    obtain ⟨-, rfl⟩ := EStateM.Result.ok.inj transpiled
    obtain ⟨-, rfl⟩ := EStateM.Result.ok.inj htranspile
    exact hsecond.writesOnly

theorem signing_run :
    ∃ report t,
      run signing plainConfiguration ⟨.matrix, [first, second]⟩ ⟨hostWith ⟨[]⟩, []⟩ =
        .ok report t ∧
      report.files.map (fun file => (file.path, file.size)) =
        [(outputOf plainConfiguration first, (first.compiler.getD "").toUTF8.size),
          (outputOf plainConfiguration second, (second.compiler.getD "").toUTF8.size)] ∧
      t.host = hostWith (signed (signed outputDirectory first.target first.compiler)
        second.target second.compiler) := by
  have hreturns : Returns signing plainConfiguration ⟨.matrix, [first, second]⟩
      ⟨hostWith outputDirectory, []⟩ ⟨⟨"/work"⟩⟩ ⟨"/work/zstd.c"⟩ _ _ :=
    .intro (.intro rfl rfl rfl)
      (.cons (hfirst.produces _) (.cons (hsecond.produces _) (.nil _)))
  exact ⟨_, _, hreturns.run_eq (by simp) makeDirectories_outputDirectory, rfl, rfl⟩

end TwoEntries

def clangEntry (target : Target) : Entry := ⟨target, some "clang"⟩

/-- Lists with a second target besides linux, which has a compiler of its own. -/
def twoLists (target : Target) : Environment :=
  .ofPairs [(targetsVariable, "linux_amd64;" ++ target.key), (compilersVariable, "gcc;clang")]

theorem signable_linuxEntry : Signable outputDirectory linuxEntry :=
  ⟨rfl, ⟨_, by rfl, by rfl⟩, by rfl, by rfl, by rfl⟩

/-- Two different targets are reported as they are stored. -/
theorem report_describes_two_targets :
    ∃ matrix report t,
      Matrix.resolve (twoLists ⟨.darwin, "arm64"⟩) ⟨"linux", "amd64"⟩ = .ok matrix ∧
      run signing plainConfiguration matrix ⟨hostWith ⟨[]⟩, []⟩ = .ok report t ∧
      report.files.map (fun file => (file.path, file.size)) =
        [(⟨"gen/zstd_linux_amd64.go"⟩, 3), (⟨"gen/zstd_darwin_arm64.go"⟩, 5)] ∧
      ∀ file ∈ report.files, file.Stored t.host := by
  have hsecond : Signable (signed outputDirectory ⟨.linux, "amd64"⟩ (some "gcc"))
      (clangEntry ⟨.darwin, "arm64"⟩) :=
    ⟨rfl, ⟨_, by rfl, by rfl⟩, by rfl, by rfl, by rfl⟩
  have hresolve : Matrix.resolve (twoLists ⟨.darwin, "arm64"⟩) ⟨"linux", "amd64"⟩ =
      .ok ⟨.matrix, [linuxEntry, clangEntry ⟨.darwin, "arm64"⟩]⟩ := by rfl
  obtain ⟨report, t, hrun, hfiles, hhost⟩ := signing_run signable_linuxEntry hsecond
  have hseparate : SeparateOutputs plainConfiguration
      [linuxEntry, clangEntry ⟨.darwin, "arm64"⟩] t.host := by
    refine ⟨by decide, by decide, fun entry _ => ?_⟩
    rw [hhost]
    exact linkFree_signed (linkFree_signed (linkFree_outputDirectory _) _ _) _ _
  obtain ⟨-, -, hstored⟩ := report_describes_stored_files hresolve
    (signing_runWritesOutputsOnly signable_linuxEntry hsecond) hrun
  exact ⟨_, report, t, hresolve, hrun, hfiles.trans (by rfl), hstored (.inr hseparate)⟩

/-- Of a target that is listed twice the first report is wrong: what its compiler gave has been
replaced by what the second one gave. -/
theorem report_of_repeated_target_is_stale :
    ∃ matrix report t file,
      Matrix.resolve (twoLists ⟨.linux, "amd64"⟩) ⟨"linux", "amd64"⟩ = .ok matrix ∧
      RunWritesOutputsOnly signing plainConfiguration matrix ⟨hostWith ⟨[]⟩, []⟩ ∧
      run signing plainConfiguration matrix ⟨hostWith ⟨[]⟩, []⟩ = .ok report t ∧
      report.files[0]? = some file ∧ ¬file.Stored t.host := by
  have hsecond : Signable (signed outputDirectory ⟨.linux, "amd64"⟩ (some "gcc"))
      (clangEntry ⟨.linux, "amd64"⟩) :=
    ⟨rfl, ⟨_, by rfl, by rfl⟩, by rfl, by rfl, by rfl⟩
  obtain ⟨report, t, hrun, hfiles, hhost⟩ := signing_run signable_linuxEntry hsecond
  obtain ⟨file, others, hreport, hfile, -⟩ := List.map_eq_cons_iff.mp hfiles
  obtain ⟨hpath, hsize⟩ := Prod.mk.inj hfile
  refine ⟨_, report, t, file, by rfl, signing_runWritesOutputsOnly signable_linuxEntry hsecond, hrun,
    by rw [hreport]; rfl, ?_⟩
  rintro ⟨content, hread, hstored, -⟩
  have hclang : t.host.files.read t.host.directory file.path = .ok "clang".toUTF8 := by
    rw [hhost, hpath]
    rfl
  rw [hsize, ← Except.ok.inj (hclang.symm.trans hread)] at hstored
  revert hstored
  decide

end Generation

end CrossGen
