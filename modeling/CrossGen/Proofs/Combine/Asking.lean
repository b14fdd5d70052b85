import CrossGen.Combine.Method
import CrossGen.Proofs.Host.Action
import CrossGen.Proofs.Host.Naming

/-!
# What the script is asked for

The script reads its arguments by a grammar in which each value is taken at its place, whatever it
looks like.  What it reads from the arguments that it is given is what inlining does here: the same
roots in the same order, the same excluded headers, the same input and the same output.  The script
is started elsewhere, but absolute paths mean the same there.
-/

namespace CrossGen

/-! ## The directory of a checkout -/

theorem Location.isAbsolute_path (loc : Location) : loc.path.isAbsolute = true := by
  simp [path, Path.ofComponents, Path.isAbsolute]

theorem Host.isAbsolute_unusedPath
    {parent : Path} (h : parent.isAbsolute = true) (host : Host) (base : String) :
    (host.unusedPath parent base).isAbsolute = true := by
  unfold unusedPath
  dsimp only
  generalize hfound : List.find? _ _ = found
  cases found with
  | none => exact Path.isAbsolute_join h _
  | some p =>
      obtain ⟨n, -, rfl⟩ := List.mem_map.mp (List.mem_of_find?_eq_some hfound)
      exact Path.isAbsolute_join h _

theorem Host.isAbsolute_of_makeTemporary
    {parent p : Path} {base : String} {host next : Host}
    (h : makeTemporary parent base host = .ok p next) : p.isAbsolute = true := by
  unfold makeTemporary at h
  rw [bind_get] at h
  obtain ⟨_, _, -, h⟩ := bind_eq_ok_iff.mp h
  obtain ⟨rfl, -⟩ := pure_eq_ok_iff.mp h
  exact isAbsolute_unusedPath (Path.isAbsolute_join host.directory.isAbsolute_path _) host base

theorem Checkout.isAbsolute_root_of_fetch
    {parent : Option Path} {release : Release} {host next : Host} {checkout : Checkout}
    (h : Checkout.fetch parent release host = .ok checkout next) :
    checkout.root.isAbsolute = true := by
  obtain ⟨made, _, hmake, h⟩ := bind_eq_ok_iff.mp h
  obtain ⟨_, _, -, h⟩ := bind_eq_ok_iff.mp h
  obtain ⟨rfl, -⟩ := pure_eq_ok_iff.mp h
  have hmake := Host.failAs_eq_ok_iff.mp hmake
  unfold make at hmake
  rw [bind_get] at hmake
  obtain ⟨root, _, htemporary, hmake⟩ := bind_eq_ok_iff.mp hmake
  obtain ⟨rfl, -⟩ := pure_eq_ok_iff.mp hmake
  exact Host.isAbsolute_of_makeTemporary htemporary

namespace Combine

namespace Script

/-! ## The grammar of the arguments -/

structure Request where
  file : String
  roots : List Path
  excludes : List Path
  keepExcluded : Bool
  output : Path
  input : Path
deriving DecidableEq, Repr

/-- Any number of paths, each behind the flag. -/
inductive Repeats (flag : String) : List String → List Path → Prop
  | nil : Repeats flag [] []
  | cons (path : Path) {words : List String} {paths : List Path} (rest : Repeats flag words paths) :
      Repeats flag (flag :: path.text :: words) (path :: paths)

inductive Switches (flag : String) : List String → Bool → Prop
  | off : Switches flag [] false
  | on : Switches flag [flag] true

/-- The words of a request: the file of the script, the roots behind `-r`, the excluded headers
behind `-x`, perhaps `-k`, the output behind `-o`, and the input. -/
inductive Reads : List String → Request → Prop
  | intro (file : String) {rootWords excludeWords keepWords : List String}
      {roots excludes : List Path} {keepExcluded : Bool} (output input : Path)
      (hroots : Repeats "-r" rootWords roots) (hexcludes : Repeats "-x" excludeWords excludes)
      (hkeep : Switches "-k" keepWords keepExcluded) :
      Reads (file :: (rootWords ++ (excludeWords ++ (keepWords ++ ["-o", output.text, input.text]))))
        ⟨file, roots, excludes, keepExcluded, output, input⟩

variable {flag : String} {words others rest tail : List String} {paths olds : List Path}

theorem repeats_flatMap (flag : String) (paths : List Path) :
    Repeats flag (paths.flatMap fun path => [flag, path.text]) paths := by
  induction paths with
  | nil => exact .nil
  | cons path paths ih => exact .cons path ih

/-- Where the paths behind one flag are over is seen from the next word, which is another one. -/
theorem Repeats.append_inj
    (h : Repeats flag words paths) (hother : Repeats flag others olds)
    (hrest : rest.head? ≠ some flag) (htail : tail.head? ≠ some flag)
    (heq : words ++ rest = others ++ tail) : paths = olds ∧ rest = tail := by
  induction h generalizing others olds with
  | nil =>
      cases hother with
      | nil => exact ⟨rfl, heq⟩
      | cons path hother => exact absurd (congrArg List.head? heq) hrest
  | cons path h ih =>
      cases hother with
      | nil => exact absurd (congrArg List.head? heq.symm) htail
      | cons other hother =>
          simp only [List.cons_append, List.cons.injEq, true_and] at heq
          obtain ⟨htext, heq⟩ := heq
          obtain ⟨rfl, hrests⟩ := ih hother heq
          cases path
          cases htext
          exact ⟨rfl, hrests⟩

theorem Switches.append_inj
    {on other : Bool} (h : Switches flag words on) (hother : Switches flag others other)
    (hrest : rest.head? ≠ some flag) (htail : tail.head? ≠ some flag)
    (heq : words ++ rest = others ++ tail) : on = other ∧ rest = tail := by
  cases h with
  | off =>
      cases hother with
      | off => exact ⟨rfl, heq⟩
      | on => exact absurd (congrArg List.head? heq) hrest
  | on =>
      cases hother with
      | off => exact absurd (congrArg List.head? heq.symm) htail
      | on => exact ⟨rfl, List.append_cancel_left heq⟩

theorem Repeats.head?_append_ne
    {other : String} (h : Repeats flag words paths) (hne : flag ≠ other)
    (hrest : rest.head? ≠ some other) : (words ++ rest).head? ≠ some other := by
  cases h with
  | nil => exact hrest
  | cons path h => simpa using hne

theorem Switches.head?_append_ne
    {other : String} {on : Bool} (h : Switches flag words on) (hne : flag ≠ other)
    (hrest : rest.head? ≠ some other) : (words ++ rest).head? ≠ some other := by
  cases h with
  | off => exact hrest
  | on => simpa using hne

theorem head?_output_ne {flag output input : String} (h : flag ≠ "-o") :
    ["-o", output, input].head? ≠ some flag :=
  fun hhead => h (Option.some.inj hhead).symm

/-- Behind the excluded headers only the flag that keeps them and that of the output can follow. -/
theorem Switches.head?_append_output_ne
    {flag output input : String} {on : Bool} (h : Switches "-k" words on) (hkeep : "-k" ≠ flag)
    (houtput : flag ≠ "-o") : (words ++ ["-o", output, input]).head? ≠ some flag :=
  h.head?_append_ne hkeep (head?_output_ne houtput)

/-- Words are read in one way at most.  A value is never taken for a flag, since the flag in front of
it has been read before. -/
theorem Reads.unique {request another : Request} (h : Reads words request)
    (hanother : Reads words another) : request = another := by
  cases h with
  | intro file output input hroots hexcludes hkeep =>
      generalize hwords : _ :: _ = words at hanother
      cases hanother with
      | intro _ output' input' hroots' hexcludes' hkeep' =>
          -- Both readings are followed from the front.  A part is over where the next word is
          -- not its flag, and that is so in both at once.
          obtain ⟨rfl, hafterFile⟩ := List.cons.inj hwords
          obtain ⟨rfl, hafterRoots⟩ := hroots.append_inj hroots'
            (hexcludes.head?_append_ne (by decide)
              (hkeep.head?_append_output_ne (by decide) (by decide)))
            (hexcludes'.head?_append_ne (by decide)
              (hkeep'.head?_append_output_ne (by decide) (by decide))) hafterFile
          obtain ⟨rfl, hafterExcludes⟩ := hexcludes.append_inj hexcludes'
            (hkeep.head?_append_output_ne (by decide) (by decide))
            (hkeep'.head?_append_output_ne (by decide) (by decide)) hafterRoots
          obtain ⟨rfl, hafterKeep⟩ := hkeep.append_inj hkeep' (head?_output_ne (by decide))
            (head?_output_ne (by decide)) hafterExcludes
          obtain ⟨output⟩ := output
          obtain ⟨input⟩ := input
          cases hafterKeep
          rfl

/-! ## Asking and inlining -/

def request (script : Script) (plan : Plan) (checkout : Checkout) : Request :=
  { file := script.file
    roots := plan.searchRoots checkout
    excludes := plan.excludes
    keepExcluded := plan.keepExcluded
    output := plan.outputPath checkout
    input := plan.input }

theorem reads_command (script : Script) (plan : Plan) (checkout : Checkout) :
    Reads (script.command plan checkout).args (script.request plan checkout) := by
  have hkeep : Switches "-k" (if plan.keepExcluded then ["-k"] else []) plan.keepExcluded := by
    cases plan.keepExcluded with
    | false => exact .off
    | true => exact .on
  have hreads := Reads.intro script.file (plan.outputPath checkout) plan.input
    (repeats_flatMap "-r" (plan.searchRoots checkout)) (repeats_flatMap "-x" plan.excludes) hkeep
  rw [← List.append_assoc, ← List.append_assoc] at hreads
  exact hreads

/-- Inlines what a script that is started in the directory is asked for. -/
def Request.inlined (request : Request) (directory : Path) : Act Failure Path := do
  let host ← get
  let rules := Rules.make ⟨host.files, host.directory, request.roots⟩ request.excludes
    request.keepExcluded
  let combined ← Host.ofExcept (combine rules (directory.join request.input))
  Host.failAs .io (Host.writeFile request.output combined.text.toUTF8)
  return request.output

theorem runNative_eq_inlined (script : Script) (plan : Plan) (checkout : Checkout) :
    runNative checkout plan =
      (script.request plan checkout).inlined (checkout.source.join plan.scriptDirectory) :=
  rfl

theorem path_of_runNative
    {plan : Plan} {checkout : Checkout} {host next : Host} {path : Path}
    (h : runNative checkout plan host = .ok path next) : path = plan.outputPath checkout := by
  unfold runNative at h
  rw [bind_get] at h
  obtain ⟨_, _, -, h⟩ := bind_eq_ok_iff.mp h
  obtain ⟨_, _, -, h⟩ := bind_eq_ok_iff.mp h
  exact (pure_eq_ok_iff.mp h).1.symm

theorem path_of_run
    {script : Script} {plan : Plan} {checkout : Checkout} {host next : Host} {path : Path}
    (h : script.run checkout plan host = .ok path next) : path = plan.outputPath checkout := by
  obtain ⟨_, _, -, h⟩ := bind_eq_ok_iff.mp h
  obtain ⟨isFile, _, -, h⟩ := bind_eq_ok_iff.mp h
  cases isFile with
  | false => cases h
  | true => exact (pure_eq_ok_iff.mp h).1.symm

theorem isAbsolute_of_mem_request
    {checkout : Checkout} (h : checkout.root.isAbsolute = true) (script : Script) (plan : Plan)
    {path : Path}
    (hpath : path ∈ (script.request plan checkout).output :: (script.request plan checkout).roots) :
    path.isAbsolute = true := by
  rcases List.mem_cons.mp hpath with rfl | hroot
  · exact Path.isAbsolute_join h plan.output
  · obtain ⟨root, -, rfl⟩ := List.mem_map.mp hroot
    exact Path.isAbsolute_join (Path.isAbsolute_join h _) root

/-- Sources are fetched into a directory with an absolute path, and for each such directory the
script is asked for exactly what inlining does.  Its arguments are read in exactly one way, and give
the roots that inlining looks into, in their order, the headers that it leaves out, and the output
that it writes.  The roots and the output mean the same where the script is started, and the input
there is the file that inlining begins with.  Whoever of the two succeeds answers the output. -/
theorem script_is_asked_for_what_is_inlined :
    (∀ parent release host checkout next,
      Checkout.fetch parent release host = .ok checkout next → checkout.root.isAbsolute = true) ∧
    ∀ (script : Script) (plan : Plan) (checkout : Checkout), checkout.root.isAbsolute = true →
      ∃ request directory,
        (∀ read, Reads (script.command plan checkout).args read ↔ read = request) ∧
        (script.command plan checkout).directory = some directory ∧
        request.file = script.file ∧ request.roots = plan.searchRoots checkout ∧
        request.excludes = plan.excludes ∧ request.keepExcluded = plan.keepExcluded ∧
        request.output = plan.outputPath checkout ∧
        directory.join request.input = plan.inputPath checkout ∧
        (∀ path ∈ request.output :: request.roots, directory.join path = path ∧
          ∀ (files : FileSystem) here there, files.locate here path = files.locate there path) ∧
        (∀ host, runNative checkout plan host = request.inlined directory host) ∧
        ∀ host path next,
          script.run checkout plan host = .ok path next ∨
            runNative checkout plan host = .ok path next →
          path = request.output := by
  refine ⟨fun parent release host checkout next => Checkout.isAbsolute_root_of_fetch, ?_⟩
  intro script plan checkout habsolute
  refine ⟨script.request plan checkout, checkout.source.join plan.scriptDirectory, ?_, rfl, rfl, rfl,
    rfl, rfl, rfl, rfl, ?_, fun host => congrFun (runNative_eq_inlined script plan checkout) host, ?_⟩
  · intro read
    constructor
    · intro hread
      exact hread.unique (reads_command script plan checkout)
    · rintro rfl
      exact reads_command script plan checkout
  · intro path hpath
    have hpath := isAbsolute_of_mem_request habsolute script plan hpath
    exact ⟨Path.join_of_isAbsolute hpath _,
      fun files here there => FileSystem.locate_of_isAbsolute hpath files here there⟩
  · rintro host path next (hscript | hnative)
    · exact path_of_run hscript
    · exact path_of_runNative hnative

/-! ### Values that look like flags -/

/-- A plan whose paths look like flags, are absolute, empty or repeated. -/
def trickyPlan : Plan :=
  { scriptDirectory := ⟨"build"⟩
    input := ⟨"-o"⟩
    roots := [⟨"lib"⟩, ⟨"/-x"⟩, ⟨""⟩, ⟨"lib"⟩]
    excludes := [⟨"-k"⟩, ⟨"-o"⟩, ⟨"-r"⟩]
    keepExcluded := true
    output := ⟨"-r"⟩ }

/-- Each value is taken for what stands at its place. -/
theorem tricky_plan_is_read_back :
    (⟨"/w"⟩ : Path).isAbsolute = true ∧
      (Script.default.command trickyPlan ⟨⟨"/w"⟩⟩).args =
        ["combine.py", "-r", "/w/zstd/lib", "-r", "/-x", "-r", "/w/zstd/", "-r", "/w/zstd/lib",
          "-x", "-k", "-x", "-o", "-x", "-r", "-k", "-o", "/w/-r", "-o"] ∧
      ∃ request,
        (∀ read, Reads (Script.default.command trickyPlan ⟨⟨"/w"⟩⟩).args read ↔ read = request) ∧
        request.roots = [⟨"/w/zstd/lib"⟩, ⟨"/-x"⟩, ⟨"/w/zstd/"⟩, ⟨"/w/zstd/lib"⟩] ∧
        request.excludes = [⟨"-k"⟩, ⟨"-o"⟩, ⟨"-r"⟩] ∧ request.keepExcluded = true ∧
        request.output = ⟨"/w/-r"⟩ := by
  have habsolute : (⟨"/w"⟩ : Path).isAbsolute = true := by decide
  obtain ⟨request, -, hreads, -, -, hroots, hexcludes, hkeep, houtput, -⟩ :=
    script_is_asked_for_what_is_inlined.2 .default trickyPlan ⟨⟨"/w"⟩⟩ habsolute
  exact ⟨habsolute, by decide +kernel, request, hreads, hroots.trans (by decide +kernel),
    hexcludes.trans rfl, hkeep.trans rfl, houtput.trans (by decide +kernel)⟩

end Script

end Combine

end CrossGen
