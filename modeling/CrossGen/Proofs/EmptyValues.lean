import CrossGen.CompilerCall
import CrossGen.Configuration
import CrossGen.Proofs.Target.Influence

/-!
# Empty variables

A variable that is set to the empty text is as good as one that is not set, whoever reads it: the
choice of the shape, both ways to resolve a matrix, the configuration and the compiler wrapper.  Each
of them reads the variables that are listed here, and no others.
-/

namespace CrossGen

/-! ## The variables that are read -/

def targetVariables : List String :=
  listVariables ++ systemChain ++ archChain ++ [compilerVariable]

def configurationVariables : List String :=
  ["ZSTD_GEN_REPO", "ZSTD_GEN_REV", "ZSTD_GEN_PATCH", "ZSTD_GEN_OUT_DIR", "ZSTD_GEN_COMBINER",
    "ZSTD_GEN_TRANSPILER"]

def wrapperVariables : List String :=
  ["CCWRAP_CC", "CC", "CCWRAP_EXT_ARGS", "EXT_ARGS", "CCWRAP_SPLIT"]

/-- All variables with a meaning. -/
def meaningfulVariables : List String :=
  targetVariables ++ configurationVariables ++ wrapperVariables

/-- Whatever is asked of them, the two environments give the same answers, errors included. -/
structure SameAnswers (env other : Environment) : Prop where
  shape : Shape.select env = Shape.select other
  matrix : ∀ platform, Matrix.resolve env platform = Matrix.resolve other platform
  lists : ∀ platform, Matrix.resolveLists env platform = Matrix.resolveLists other platform
  single : ∀ platform, Matrix.resolveSingle env platform = Matrix.resolveSingle other platform
  configuration : ∀ places,
    Configuration.ofEnvironment env places = Configuration.ofEnvironment other places
  split : SplitMode.ofEnvironment env = SplitMode.ofEnvironment other
  call : CompilerCall.ofEnvironment env = CompilerCall.ofEnvironment other

/-! ## Who reads what -/

variable {env other : Environment}

theorem Matrix.resolve_congr
    (h : ∀ name ∈ targetVariables, env.value? name = other.value? name) (platform : Platform) :
    resolveLists env platform = resolveLists other platform ∧
      resolveSingle env platform = resolveSingle other platform ∧
      resolve env platform = resolve other platform := by
  have hselect : Shape.select env = Shape.select other := by
    apply Shape.select_congr
    intro name hname
    apply h
    simp [targetVariables, hname]
  have hlists : resolveLists env platform = resolveLists other platform :=
    resolveLists_congr (h _ (by decide)) (h _ (by decide)) platform
  have hsystem : env.firstValue? systemChain = other.firstValue? systemChain :=
    Environment.firstValue?_congr h (by decide)
  have harch : env.firstValue? archChain = other.firstValue? archChain :=
    Environment.firstValue?_congr h (by decide)
  have hsingle : resolveSingle env platform = resolveSingle other platform :=
    resolveSingle_congr hsystem harch (h _ (by decide)) platform
  refine ⟨hlists, hsingle, ?_⟩
  unfold resolve
  rw [hselect, hlists, hsingle]

theorem Configuration.ofEnvironment_congr
    (h : ∀ name ∈ configurationVariables, env.value? name = other.value? name) (places : Places) :
    ofEnvironment env places = ofEnvironment other places := by
  have hrepository : env.value? "ZSTD_GEN_REPO" = other.value? "ZSTD_GEN_REPO" :=
    h _ (by decide)
  have hrevision : env.value? "ZSTD_GEN_REV" = other.value? "ZSTD_GEN_REV" := h _ (by decide)
  have hpatch : env.value? "ZSTD_GEN_PATCH" = other.value? "ZSTD_GEN_PATCH" := h _ (by decide)
  have houtput : env.value? "ZSTD_GEN_OUT_DIR" = other.value? "ZSTD_GEN_OUT_DIR" :=
    h _ (by decide)
  have hcombiner : env.value? "ZSTD_GEN_COMBINER" = other.value? "ZSTD_GEN_COMBINER" :=
    h _ (by decide)
  have hprogram : env.value? "ZSTD_GEN_TRANSPILER" = other.value? "ZSTD_GEN_TRANSPILER" :=
    h _ (by decide)
  unfold ofEnvironment
  rw [hrepository, hrevision, hpatch, houtput, hcombiner, hprogram]

theorem SplitMode.ofEnvironment_congr
    (h : env.value? "CCWRAP_SPLIT" = other.value? "CCWRAP_SPLIT") :
    ofEnvironment env = ofEnvironment other := by
  unfold ofEnvironment
  rw [h]

theorem CompilerCall.ofEnvironment_congr
    (h : ∀ name ∈ wrapperVariables, env.value? name = other.value? name) :
    ofEnvironment env = ofEnvironment other := by
  have hcompiler : env.firstValue? ["CCWRAP_CC", "CC"] = other.firstValue? ["CCWRAP_CC", "CC"] :=
    Environment.firstValue?_congr h (by decide)
  have hextras : env.firstValue? ["CCWRAP_EXT_ARGS", "EXT_ARGS"] =
      other.firstValue? ["CCWRAP_EXT_ARGS", "EXT_ARGS"] :=
    Environment.firstValue?_congr h (by decide)
  unfold ofEnvironment Environment.firstValueD
  rw [SplitMode.ofEnvironment_congr (h _ (by decide)), hcompiler, hextras]

/-- Environments with the same values give the same answers. -/
theorem sameAnswers_of_sameValue (h : ∀ name ∈ meaningfulVariables, env.SameValue other name) :
    SameAnswers env other := by
  have hvalue : ∀ names, names ⊆ meaningfulVariables →
      ∀ name ∈ names, env.value? name = other.value? name := fun names hsubset name hname =>
    Environment.sameValue_iff.mp (h name (hsubset hname))
  have htargets := hvalue targetVariables (by decide)
  have hwrapper := hvalue wrapperVariables (by decide)
  exact
    { shape := Shape.select_congr (hvalue listVariables (by decide))
      matrix := fun platform => (Matrix.resolve_congr htargets platform).2.2
      lists := fun platform => (Matrix.resolve_congr htargets platform).1
      single := fun platform => (Matrix.resolve_congr htargets platform).2.1
      configuration :=
        Configuration.ofEnvironment_congr (hvalue configurationVariables (by decide))
      split := SplitMode.ofEnvironment_congr (hwrapper _ (by decide))
      call := CompilerCall.ofEnvironment_congr hwrapper }

/-! ## Setting one variable -/

theorem Environment.sameValue_set_empty {name : String} (h : env.Unset name) (asked : String) :
    (env.set name "").SameValue env asked := by
  by_cases hname : asked = name
  · rw [hname]
    exact .inr ⟨.inr (env.lookup?_set_self name ""), h⟩
  · rw [Environment.sameValue_iff, Environment.value?, env.lookup?_set_of_ne "" hname]
    rfl

theorem Environment.sameValue_set_of_ne
    {name asked : String} (value : String) (h : asked ≠ name) :
    (env.set name value).SameValue env asked := by
  rw [Environment.sameValue_iff, Environment.value?, env.lookup?_set_of_ne value h]
  rfl

/-- What a variable without a value is set to counts for each of the variables with a meaning. -/
theorem not_sameAnswers_set_of_mem {name : String} (h : name ∈ meaningfulVariables) :
    ¬SameAnswers (Environment.empty.set name "x") .empty := by
  -- One reader that tells the two apart is enough; the lists show in the choice of the shape.
  have hdiffer : ∀ name ∈ meaningfulVariables,
      Shape.select (Environment.empty.set name "x") ≠ Shape.select .empty ∨
        Matrix.resolveSingle (Environment.empty.set name "x") .native ≠
          Matrix.resolveSingle .empty .native ∨
        Configuration.ofEnvironment (Environment.empty.set name "x") ⟨⟨""⟩, ⟨""⟩⟩ ≠
          Configuration.ofEnvironment .empty ⟨⟨""⟩, ⟨""⟩⟩ ∨
        CompilerCall.ofEnvironment (Environment.empty.set name "x") ≠
          CompilerCall.ofEnvironment .empty := by
    decide +kernel
  intro hsame
  rcases hdiffer name h with hshape | hsingle | hconfiguration | hcall
  · exact hshape hsame.shape
  · exact hsingle (hsame.single .native)
  · exact hconfiguration (hsame.configuration _)
  · exact hcall hsame.call

/-- A variable that is set to the empty text cannot be told from one that is not set.  Environments
with the same values under all variables with a meaning give the same answers and the same errors, to
every reader and on every platform.  So it changes nothing to set a variable without a value to the
empty text, or any variable without a meaning to whatever text, while no variable is listed in vain. -/
theorem empty_is_as_good_as_unset :
    (∀ env other : Environment,
      (∀ name ∈ meaningfulVariables, env.SameValue other name) → SameAnswers env other) ∧
    (∀ (env : Environment) (name : String), env.Unset name →
      SameAnswers (env.set name "") env) ∧
    (∀ (env : Environment) (name value : String), name ∉ meaningfulVariables →
      SameAnswers (env.set name value) env) ∧
    ∀ name ∈ meaningfulVariables, ∃ (env : Environment) (value : String),
      ¬SameAnswers (env.set name value) env := by
  refine ⟨fun env other => sameAnswers_of_sameValue, ?_, ?_,
    fun name hname => ⟨.empty, "x", not_sameAnswers_set_of_mem hname⟩⟩
  · intro env name hunset
    exact sameAnswers_of_sameValue fun asked _ => Environment.sameValue_set_empty hunset asked
  · intro env name value hname
    apply sameAnswers_of_sameValue
    intro asked hasked
    exact Environment.sameValue_set_of_ne value (ne_of_mem_of_not_mem hasked hname)

/-! ### An environment with empty variables -/

/-- Lists of targets, and a compiler for the wrapper. -/
def sparseEnvironment : Environment :=
  .ofPairs [("ZSTD_GEN_TARGETS", ";darwin_arm64"), ("CCWRAP_SPLIT", "legacy"), ("CC", "clang")]

/-- The same with an empty text for each of the other readers, and a name that none of them reads. -/
def paddedEnvironment : Environment :=
  .ofPairs [("ZSTD_GEN_MODE", ""), ("ZSTD_GEN_TARGETS", ";darwin_arm64"), ("ZSTD_GEN_CCS", ""),
    ("TARGET_GOOS", ""), ("ZSTD_GEN_COMBINER", ""), ("CCWRAP_SPLIT", "legacy"), ("CCWRAP_CC", ""),
    ("CC", "clang"), ("CCWRAP_EXT_ARGS", ""), ("HOME", "/root")]

/-- The empty texts are as good as none, and the name that nobody reads has no influence. -/
theorem padded_environment_answers_alike :
    (∀ name ∈ meaningfulVariables, paddedEnvironment.SameValue sparseEnvironment name) ∧
      SameAnswers paddedEnvironment sparseEnvironment ∧
      SameAnswers (sparseEnvironment.set "GOOS" "") sparseEnvironment ∧
      SameAnswers (sparseEnvironment.set "HOME" "/root") sparseEnvironment := by
  obtain ⟨hvalues, hempty, hother, -⟩ := empty_is_as_good_as_unset
  have hsame : ∀ name ∈ meaningfulVariables,
      paddedEnvironment.value? name = sparseEnvironment.value? name := by
    decide +kernel
  have hsame : ∀ name ∈ meaningfulVariables,
      paddedEnvironment.SameValue sparseEnvironment name := fun name hname =>
    Environment.sameValue_iff.mpr (hsame name hname)
  exact ⟨hsame, hvalues _ _ hsame, hempty _ "GOOS" (.inl (by decide +kernel)),
    hother _ "HOME" "/root" (by decide)⟩

end CrossGen
