import CrossGen.Proofs.Environment
import CrossGen.Proofs.Target.Resolution

/-!
# What a matrix depends on

The two lists are read from their own variables alone, and so is the single target from its own.
Which of the two ways is taken depends on the mode and the lists.  The platform only stands where the
environment leaves something open.
-/

namespace CrossGen

/-- The variables that decide on the shape.  Those of the lists are read by the lists as well. -/
def listVariables : List String :=
  [modeVariable, targetsVariable, compilersVariable]

/-- A shape falls back on the platform: the list of targets begins with an empty token, or a chain of
variables has no value. -/
def Shape.FallsBack (env : Environment) : Shape → Prop
  | .matrix => (Text.fields ';' ((env.lookup? targetsVariable).getD "")).head? = some ""
  | .single => env.firstValue? systemChain = none ∨ env.firstValue? archChain = none

instance (env : Environment) : (shape : Shape) → Decidable (shape.FallsBack env)
  | .matrix => inferInstanceAs (Decidable (_ = _))
  | .single => inferInstanceAs (Decidable (_ ∨ _))

variable {env other : Environment}

theorem Shape.select_congr (h : ∀ name ∈ listVariables, env.value? name = other.value? name) :
    Shape.select env = Shape.select other := by
  have hmode : env.value? modeVariable = other.value? modeVariable := h _ (by decide)
  have htargets : env.value? targetsVariable = other.value? targetsVariable := h _ (by decide)
  have hcompilers : env.value? compilersVariable = other.value? compilersVariable :=
    h _ (by decide)
  unfold Shape.select
  rw [hmode, htargets, hcompilers]

namespace Matrix

/-! ## Other variables -/

theorem resolveLists_congr
    (htargets : env.value? targetsVariable = other.value? targetsVariable)
    (hcompilers : env.value? compilersVariable = other.value? compilersVariable)
    (platform : Platform) :
    resolveLists env platform = resolveLists other platform := by
  have htokens : tokens env platform = tokens other platform := by
    unfold tokens
    rw [Environment.getD_lookup?, Environment.getD_lookup?, htargets]
  have hread : ∀ count, compilers env count = compilers other count := by
    intro count
    unfold compilers
    rw [hcompilers]
  unfold resolveLists
  simp only [htokens, hread]

theorem resolveSingle_congr
    (hsystem : env.firstValue? systemChain = other.firstValue? systemChain)
    (harch : env.firstValue? archChain = other.firstValue? archChain)
    (hcompiler : env.value? compilerVariable = other.value? compilerVariable)
    (platform : Platform) :
    resolveSingle env platform = resolveSingle other platform := by
  unfold resolveSingle Environment.firstValueD
  rw [hsystem, harch, hcompiler]

theorem resolve_of_matrix (h : Shape.select env = .ok .matrix) (platform : Platform) :
    resolve env platform = resolveLists env platform := by
  rw [resolve, h]

theorem resolve_of_single (h : Shape.select env = .ok .single) (platform : Platform) :
    resolve env platform = resolveSingle env platform := by
  rw [resolve, h]

/-! ## Other platforms -/

theorem fallsBack_matrix_iff {first : String} {rest : List String}
    (h : Text.fields ';' ((env.lookup? targetsVariable).getD "") = first :: rest) :
    Shape.matrix.FallsBack env ↔ first = "" := by
  rw [Shape.FallsBack, h, List.head?_cons, Option.some.injEq]

/-- A list that begins with a token is the same on every platform. -/
theorem resolveLists_eq_of_not_fallsBack
    (h : ¬Shape.matrix.FallsBack env) (platform another : Platform) :
    resolveLists env platform = resolveLists env another := by
  obtain ⟨first, rest, hfields⟩ := exists_fields_targets_eq env
  have hfirst : first ≠ "" := mt (fallsBack_matrix_iff hfields).mpr h
  have htokens : tokens env platform = tokens env another := by
    rw [tokens_of_fields hfields, tokens_of_fields hfields, if_neg hfirst, if_neg hfirst]
  unfold resolveLists
  rw [htokens]

theorem resolveSingle_eq_of_not_fallsBack
    (h : ¬Shape.single.FallsBack env) (platform another : Platform) :
    resolveSingle env platform = resolveSingle env another := by
  obtain ⟨hsystem, harch⟩ := not_or.mp h
  obtain ⟨system, hsystem⟩ := Option.ne_none_iff_exists'.mp hsystem
  obtain ⟨arch, harch⟩ := Option.ne_none_iff_exists'.mp harch
  unfold resolveSingle Environment.firstValueD
  rw [hsystem, harch]
  rfl

theorem resolve_eq_of_not_fallsBack
    (h : ∀ shape, Shape.select env = .ok shape → ¬shape.FallsBack env)
    (platform another : Platform) :
    resolve env platform = resolve env another := by
  cases hselect : Shape.select env with
  | error e =>
      unfold resolve
      rw [hselect]
  | ok shape =>
      cases shape with
      | matrix =>
          rw [resolve_of_matrix hselect, resolve_of_matrix hselect]
          exact resolveLists_eq_of_not_fallsBack (h _ hselect) platform another
      | single =>
          rw [resolve_of_single hselect, resolve_of_single hselect]
          exact resolveSingle_eq_of_not_fallsBack (h _ hselect) platform another

def nowhere : Platform :=
  ⟨"", ""⟩

/-- The key of a platform without names is that of no target. -/
theorem resolveLists_nowhere_ne_ok
    (h : Shape.matrix.FallsBack env) (matrix : Matrix) :
    resolveLists env nowhere ≠ .ok matrix := by
  intro hresolve
  obtain ⟨-, htokens, -, hadmitted⟩ := resolveLists_eq_ok_iff.mp hresolve
  obtain ⟨first, rest, hfields⟩ := exists_fields_targets_eq env
  have hhead : (tokens env nowhere).head? = some "_" := by
    rw [tokens_of_fields hfields, if_pos ((fallsBack_matrix_iff hfields).mp h)]
    rfl
  rw [htokens, keys, List.head?_map] at hhead
  obtain ⟨entry, hentry, hkey⟩ := Option.map_eq_some_iff.mp hhead
  have hparse : Target.parse "_" = .ok entry.target :=
    Target.parse_eq_ok_iff.mpr ⟨hkey.symm, (hadmitted entry (List.mem_of_head? hentry)).1⟩
  cases hparse

/-- Where a chain has no value, another platform gives another target or none. -/
theorem exists_resolveSingle_ne
    (h : Shape.single.FallsBack env) {platform : Platform} {matrix : Matrix}
    (hresolve : resolveSingle env platform = .ok matrix) :
    ∃ another, resolveSingle env another ≠ .ok matrix := by
  rcases h with hsystem | harch
  · refine ⟨nowhere, fun hnowhere => ?_⟩
    obtain ⟨system, hname, -⟩ := resolveSingle_eq_ok_iff.mp hnowhere
    rw [Environment.firstValueD, hsystem] at hname
    exact system.name_ne_empty hname.symm
  -- The system may come from its chain, so only the architecture can be told apart.
  · refine ⟨⟨platform.system, platform.arch ++ "_"⟩, fun hanother => ?_⟩
    obtain ⟨system, -, rfl⟩ := resolveSingle_eq_ok_iff.mp hresolve
    obtain ⟨another, -, heq⟩ := resolveSingle_eq_ok_iff.mp hanother
    rw [Environment.firstValueD, Environment.firstValueD, harch] at heq
    have harches := congrArg (fun matrix => matrix.entries.map fun entry => entry.target.arch) heq
    have hlength := congrArg String.length (List.singleton_inj.mp harches)
    simp at hlength

/-- If there is a matrix, then it depends on the platform that the shape falls back on. -/
theorem exists_resolve_ne
    {shape : Shape} (hselect : Shape.select env = .ok shape) (h : shape.FallsBack env)
    {platform : Platform} {matrix : Matrix} (hresolve : resolve env platform = .ok matrix) :
    ∃ another, resolve env another ≠ resolve env platform := by
  rw [hresolve]
  cases shape with
  | matrix =>
      refine ⟨nowhere, ?_⟩
      rw [resolve_of_matrix hselect]
      exact resolveLists_nowhere_ne_ok h matrix
  | single =>
      rw [resolve_of_single hselect] at hresolve
      obtain ⟨another, hne⟩ := exists_resolveSingle_ne h hresolve
      exact ⟨another, by rwa [resolve_of_single hselect]⟩

/-! ## The shapes apart -/

/-- The shapes never mix.  Lists that are asked for are read alike whatever the variables of the
single target hold, and the single target is read alike whatever the lists hold, whether this gives a
matrix or an error.  The platform has no influence unless the shape falls back on it, and if the shape
does and there is a matrix, then it has some. -/
theorem shapes_never_mix :
    (∀ (env other : Environment) (platform : Platform),
      (∀ name ∈ listVariables, env.value? name = other.value? name) →
      Shape.select env = .ok .matrix →
        Shape.select other = .ok .matrix ∧ resolve env platform = resolve other platform) ∧
    (∀ (env other : Environment) (platform : Platform),
      Shape.select env = .ok .single → Shape.select other = .ok .single →
      env.value? compilerVariable = other.value? compilerVariable →
      env.firstValue? systemChain = other.firstValue? systemChain →
      env.firstValue? archChain = other.firstValue? archChain →
        resolve env platform = resolve other platform) ∧
    (∀ env : Environment,
      (∀ shape, Shape.select env = .ok shape → ¬shape.FallsBack env) →
        ∀ platform another, resolve env platform = resolve env another) ∧
    ∀ (env : Environment) (shape : Shape) (platform : Platform) (matrix : Matrix),
      Shape.select env = .ok shape → shape.FallsBack env → resolve env platform = .ok matrix →
        ∃ another, resolve env another ≠ resolve env platform := by
  refine ⟨?_, ?_, fun env => resolve_eq_of_not_fallsBack,
    fun env shape platform matrix hselect hfalls => exists_resolve_ne hselect hfalls⟩
  · intro env other platform hvalues hmatrix
    have hother : Shape.select other = .ok .matrix := by
      rw [← Shape.select_congr hvalues, hmatrix]
    refine ⟨hother, ?_⟩
    rw [resolve_of_matrix hmatrix, resolve_of_matrix hother]
    exact resolveLists_congr (hvalues _ (by decide)) (hvalues _ (by decide)) platform
  · intro env other platform hsingle hother hcompiler hsystem harch
    rw [resolve_of_single hsingle, resolve_of_single hother]
    exact resolveSingle_congr hsystem harch hcompiler platform

/-! ### Lists beside a single target -/

/-- A platform and a target in the lists, beside the variables of a single target. -/
def listsBeside (system arch compiler : String) : Environment :=
  .ofPairs [(targetsVariable, ";darwin_arm64"), (compilersVariable, "gcc;"),
    ("TARGET_GOOS", system), ("GOARCH", arch), (compilerVariable, compiler)]

/-- A single target, beside lists that are not asked for. -/
def singleBeside (targets compilers : String) : Environment :=
  .ofPairs [(modeVariable, "single"), ("GOOS", "windows"), ("TARGET_GOARCH", "386"),
    (targetsVariable, targets), (compilersVariable, compilers)]

/-- Neither the lists nor the single target are changed by the variables of the other one, and only
the lists, which begin with an empty token, depend on the platform. -/
theorem shapes_stay_apart_beside_each_other :
    (Shape.select (listsBeside "windows" "mips" "clang") = .ok .matrix ∧
      resolve (listsBeside "windows" "mips" "clang") ⟨"linux", "amd64"⟩ =
        resolve (listsBeside "" "arm" "") ⟨"linux", "amd64"⟩) ∧
    (Shape.select (singleBeside "plan9" "gcc") = .ok .single ∧
      resolve (singleBeside "plan9" "gcc") ⟨"linux", "amd64"⟩ =
        resolve (singleBeside "" ";;") ⟨"linux", "amd64"⟩) ∧
    resolve (singleBeside "plan9" "gcc") ⟨"linux", "amd64"⟩ =
      resolve (singleBeside "plan9" "gcc") ⟨"darwin", "arm64"⟩ ∧
    ∃ another, resolve (listsBeside "" "" "") another ≠
      resolve (listsBeside "" "" "") ⟨"linux", "amd64"⟩ := by
  obtain ⟨hlists, hsingle, hplatform, hfalls⟩ := shapes_never_mix
  have hmatrix : Shape.select (listsBeside "windows" "mips" "clang") = .ok .matrix := by
    decide +kernel
  have hselect : Shape.select (singleBeside "plan9" "gcc") = .ok .single := by decide +kernel
  have hnamed : ¬Shape.single.FallsBack (singleBeside "plan9" "gcc") := by decide +kernel
  have hresolve : resolve (listsBeside "" "" "") ⟨"linux", "amd64"⟩ =
      .ok ⟨.matrix, [⟨⟨.linux, "amd64"⟩, some "gcc"⟩, ⟨⟨.darwin, "arm64"⟩, none⟩]⟩ := by
    decide +kernel
  refine ⟨⟨hmatrix, (hlists _ _ _ (by decide +kernel) hmatrix).2⟩,
    ⟨hselect, hsingle _ _ _ hselect (by decide +kernel) (by decide +kernel) (by decide +kernel)
      (by decide +kernel)⟩,
    hplatform _ ?_ _ _, hfalls _ .matrix _ _ (by decide +kernel) (by decide +kernel) hresolve⟩
  intro shape hshape
  cases hselect.symm.trans hshape
  exact hnamed

end Matrix

end CrossGen
