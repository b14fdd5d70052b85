import CrossGen.Transpiler.Invocation
import Mathlib.Data.List.Induction
import Mathlib.Data.List.Nodup

/-!
# The options of the transpiler

The arguments of the transpiler are three leading ones, the options of the tolerances, and the two
paths at the end.  Of options that are asked for again and again each one is given once, where it is
asked for first.  Only an option that is one of the leading arguments is not given behind them, which
never happens with the settings of a configuration.
-/

namespace CrossGen

/-- Of the options that are asked for, those that are given behind the leading arguments: all of them
but the leading arguments themselves, in the order in which they are asked for first. -/
structure GivenBehind (leading asked given : List String) : Prop where
  mem_iff : ∀ option, option ∈ given ↔ option ∈ asked ∧ option ∉ leading
  ordered : given.Pairwise fun first second => asked.idxOf first < asked.idxOf second

namespace GivenBehind

variable {leading asked given : List String}

theorem nodup (h : GivenBehind leading asked given) : given.Nodup := by
  apply h.ordered.imp
  intro first second hlt
  rintro rfl
  exact Nat.lt_irrefl _ hlt

/-- What is given is decided by what is asked for, and by the leading arguments. -/
theorem unique {other : List String} (h : GivenBehind leading asked given)
    (hother : GivenBehind leading asked other) : given = other := by
  have hperm : given.Perm other := by
    rw [List.perm_ext_iff_of_nodup h.nodup hother.nodup]
    intro option
    rw [h.mem_iff, hother.mem_iff]
  apply hperm.eq_of_pairwise _ h.ordered hother.ordered
  intro first second _ _ hlt hgt
  exact absurd hgt (Nat.lt_asymm hlt)

theorem nil (leading : List String) : GivenBehind leading [] [] :=
  ⟨by simp, List.Pairwise.nil⟩

/-- The order of options does not change when others are asked for behind them. -/
theorem ordered_concat (h : GivenBehind leading asked given) (option : String) :
    given.Pairwise fun first second =>
      (asked ++ [option]).idxOf first < (asked ++ [option]).idxOf second := by
  have hasked : ∀ other ∈ given, (asked ++ [option]).idxOf other = asked.idxOf other := by
    intro other hother
    exact List.idxOf_append_of_mem ((h.mem_iff other).mp hother).1
  apply h.ordered.imp_of_mem
  intro first second hfirst hsecond hlt
  rwa [hasked first hfirst, hasked second hsecond]

theorem concat_of_mem
    {option : String} (h : GivenBehind leading asked given) (hmem : option ∈ leading ++ given) :
    GivenBehind leading (asked ++ [option]) given := by
  refine ⟨fun other => ?_, h.ordered_concat option⟩
  rw [h.mem_iff, List.mem_append, List.mem_singleton]
  constructor
  · rintro ⟨hasked, hleading⟩
    exact ⟨.inl hasked, hleading⟩
  · rintro ⟨hasked | rfl, hleading⟩
    · exact ⟨hasked, hleading⟩
    · have hgiven : other ∈ given := (List.mem_append.mp hmem).resolve_left hleading
      exact (h.mem_iff other).mp hgiven

theorem concat_of_notMem
    {option : String} (h : GivenBehind leading asked given) (hnew : option ∉ leading ++ given) :
    GivenBehind leading (asked ++ [option]) (given ++ [option]) := by
  have hleading : option ∉ leading := fun hmem => hnew (List.mem_append_left _ hmem)
  have hgiven : option ∉ given := fun hmem => hnew (List.mem_append_right _ hmem)
  have hasked : option ∉ asked := by
    intro hasked
    exact hgiven ((h.mem_iff option).mpr ⟨hasked, hleading⟩)
  constructor
  · intro other
    rw [List.mem_append, List.mem_append, List.mem_singleton, h.mem_iff]
    constructor
    · rintro (⟨hother, hfree⟩ | rfl)
      · exact ⟨.inl hother, hfree⟩
      · exact ⟨.inr rfl, hleading⟩
    · rintro ⟨hother | rfl, hfree⟩
      · exact .inl ⟨hother, hfree⟩
      · exact .inr rfl
  · rw [List.pairwise_append]
    refine ⟨h.ordered_concat option, List.pairwise_singleton _ _, ?_⟩
    intro first hfirst second hsecond
    obtain rfl := List.mem_singleton.mp hsecond
    have hbefore : first ∈ asked := ((h.mem_iff first).mp hfirst).1
    rw [List.idxOf_append_of_mem hbefore, List.idxOf_append_of_notMem hasked]
    have hlt := List.idxOf_lt_length_of_mem hbefore
    omega

end GivenBehind

namespace Invocation

/-! ## Options one after the other -/

/-- One option more is given once, whether it is among the arguments or not. -/
theorem exists_addOption {leading asked given : List String} (h : GivenBehind leading asked given)
    (option : String) :
    ∃ more, addOption (leading ++ given) option = leading ++ more ∧
      GivenBehind leading (asked ++ [option]) more := by
  unfold addOption
  by_cases hmem : option ∈ leading ++ given
  · rw [if_pos (List.contains_iff_mem.mpr hmem)]
    exact ⟨given, rfl, h.concat_of_mem hmem⟩
  · rw [if_neg (mt List.contains_iff_mem.mp hmem)]
    exact ⟨given ++ [option], List.append_assoc _ _ _, h.concat_of_notMem hmem⟩

/-- So are all options that are added one after the other. -/
theorem exists_foldl_addOption (leading asked : List String) :
    ∃ given, asked.foldl addOption leading = leading ++ given ∧ GivenBehind leading asked given := by
  -- The induction takes the last option off, since the first ones are added first.
  induction asked using List.reverseRecOn with
  | nil => exact ⟨[], (List.append_nil leading).symm, .nil leading⟩
  | append_singleton asked option ih =>
      obtain ⟨given, hfold, hgiven⟩ := ih
      obtain ⟨more, hadd, hmore⟩ := exists_addOption hgiven option
      refine ⟨more, ?_, hmore⟩
      rw [List.foldl_append, hfold]
      exact hadd

/-- The options of tolerances, some of which may be the same. -/
def asked (tolerances : List Tolerance) : List String :=
  tolerances.map Tolerance.option

/-- The paths have no influence on the arguments in front of them. -/
theorem exists_args_eq (packageName standard : String) (tolerances : List Tolerance) :
    ∃ given, GivenBehind ["--package-name", packageName, standard] (asked tolerances) given ∧
      ∀ input output : Path, (Invocation.mk packageName standard tolerances input output).args =
        ["--package-name", packageName, standard] ++ given ++ [input.text, "-o", output.text] := by
  obtain ⟨given, hfold, hgiven⟩ :=
    exists_foldl_addOption ["--package-name", packageName, standard] (asked tolerances)
  refine ⟨given, hgiven, ?_⟩
  intro input output
  rw [← hfold]
  rfl

/-! ## The settings of a configuration -/

theorem settings_of_ofEnvironment
    {env : Environment} {places : Places} {configuration : Configuration}
    (h : Configuration.ofEnvironment env places = .ok configuration) :
    configuration.settings.packageName = "libzstd" ∧
      configuration.settings.standard = "-std=c17" := by
  unfold Configuration.ofEnvironment at h
  dsimp only at h
  split at h
  · cases h
  · cases h
    exact ⟨rfl, rfl⟩

/-- No tolerance asks for one of the arguments that every configuration has in front. -/
theorem option_notMem_leading (tolerance : Tolerance) :
    tolerance.option ∉ ["--package-name", "libzstd", "-std=c17"] := by
  cases tolerance with
  | missingQsortR | unsupportedAlignment | missingQsortS | missingClock => decide
  | suppressedHeader guard =>
      -- Its option begins with `-D`, and none of the arguments does.
      intro hmem
      have hfront : (Tolerance.suppressedHeader guard).option.toList.take 2 = ['-', 'D'] := by
        simp [Tolerance.option]
      have hother : ∀ text ∈ ["--package-name", "libzstd", "-std=c17"],
          text.toList.take 2 ≠ ['-', 'D'] := by
        decide
      exact hother _ hmem hfront

/-- With such arguments in front, nothing that is asked for is left out. -/
theorem givenBehind_nil_of_configuration
    {tolerances : List Tolerance} {given : List String}
    (h : GivenBehind ["--package-name", "libzstd", "-std=c17"] (asked tolerances) given) :
    GivenBehind [] (asked tolerances) given := by
  refine ⟨fun option => ?_, h.ordered⟩
  rw [h.mem_iff]
  constructor
  · rintro ⟨hasked, -⟩
    exact ⟨hasked, List.not_mem_nil⟩
  · rintro ⟨hasked, -⟩
    obtain ⟨tolerance, -, rfl⟩ := List.mem_map.mp hasked
    exact ⟨hasked, option_notMem_leading tolerance⟩

/-- Options are given once and in order.  The arguments are the three leading ones, then options, then
the paths.  No option is given twice, and they are the options that tolerances ask for, without those
that are leading arguments, in the order in which they are asked for first; there is one such list, and
the paths have no part in it.  For all configurations this is the same list of options, in which each
one that is asked for stands exactly once. -/
theorem each_option_is_given_once :
    (∀ (packageName standard : String) (tolerances : List Tolerance), ∃ given,
      (∀ input output : Path, (Invocation.mk packageName standard tolerances input output).args =
        ["--package-name", packageName, standard] ++ given ++ [input.text, "-o", output.text]) ∧
      given.Nodup ∧
      GivenBehind ["--package-name", packageName, standard] (asked tolerances) given ∧
      ∀ other, GivenBehind ["--package-name", packageName, standard] (asked tolerances) other →
        other = given) ∧
    ∀ tolerances : List Tolerance, ∃ given,
      GivenBehind [] (asked tolerances) given ∧
      (∀ option ∈ asked tolerances, given.count option = 1) ∧
      ∀ (env : Environment) (places : Places) (configuration : Configuration),
        Configuration.ofEnvironment env places = .ok configuration →
        ∀ input output : Path,
          (Invocation.mk configuration.settings.packageName configuration.settings.standard tolerances
            input output).args =
          ["--package-name", configuration.settings.packageName, configuration.settings.standard] ++
            given ++ [input.text, "-o", output.text] := by
  constructor
  · intro packageName standard tolerances
    obtain ⟨given, hgiven, hargs⟩ := exists_args_eq packageName standard tolerances
    exact ⟨given, hargs, hgiven.nodup, hgiven, fun other hother => hother.unique hgiven⟩
  · intro tolerances
    obtain ⟨given, hgiven, hargs⟩ := exists_args_eq "libzstd" "-std=c17" tolerances
    have hall := givenBehind_nil_of_configuration hgiven
    refine ⟨given, hall, ?_, ?_⟩
    · intro option hasked
      apply List.count_eq_one_of_mem hall.nodup
      exact (hall.mem_iff option).mpr ⟨hasked, List.not_mem_nil⟩
    · intro env places configuration hconfiguration input output
      obtain ⟨hname, hstandard⟩ := settings_of_ofEnvironment hconfiguration
      rw [hname, hstandard]
      exact hargs input output

/-- An option that is a leading argument already is not given behind it. -/
example :
    (Invocation.mk "libzstd" "-ignore-link-errors"
      [.missingClock, .unsupportedAlignment, .missingQsortS, .unsupportedAlignment]
      ⟨"zstd.c"⟩ ⟨"zstd.go"⟩).args =
    ["--package-name", "libzstd", "-ignore-link-errors", "-ignore-unsupported-alignment", "zstd.c",
      "-o", "zstd.go"] := by
  decide

/-- Paths that look like an option neither keep it from being given nor move it. -/
theorem options_stand_before_paths_of_their_name :
    ∃ configuration,
      Configuration.ofEnvironment (.ofPairs [("ZSTD_GEN_OUT_DIR", "-ignore-link-errors")])
        ⟨⟨"fix.patch"⟩, ⟨"gen"⟩⟩ = .ok configuration ∧
      ∃ given, given.count "-ignore-link-errors" = 1 ∧
        (Invocation.mk configuration.settings.packageName configuration.settings.standard
          (Tolerance.needed .windows ++ Tolerance.needed .darwin) ⟨"-ignore-link-errors"⟩
          configuration.output).args =
        ["--package-name", "libzstd", "-std=c17"] ++ given ++
          ["-ignore-link-errors", "-o", "-ignore-link-errors"] := by
  obtain ⟨given, -, honce, hargs⟩ :=
    each_option_is_given_once.2 (Tolerance.needed .windows ++ Tolerance.needed .darwin)
  refine ⟨_, rfl, given, honce _ (by decide), ?_⟩
  exact hargs (.ofPairs [("ZSTD_GEN_OUT_DIR", "-ignore-link-errors")]) ⟨⟨"fix.patch"⟩, ⟨"gen"⟩⟩ _ rfl
    ⟨"-ignore-link-errors"⟩ ⟨"-ignore-link-errors"⟩

end Invocation

end CrossGen
