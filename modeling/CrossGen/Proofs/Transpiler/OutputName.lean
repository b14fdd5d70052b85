import CrossGen.Proofs.Host.Naming
import CrossGen.Proofs.Target.Key
import CrossGen.Transpiler.Invocation

/-!
# Names of outputs

The file that a target is generated into is named by the key of the target between a stem and an
extension, all of which may hold any characters.  Different targets have different files all the same,
since what stands in front of the key and behind it is the same for all of them.  If none of the parts
holds a separator, then the name stands for one file in the output directory, and the target is read
from it again.
-/

namespace CrossGen

namespace Text

/-- What stands in a text between the two given texts at its ends. -/
def between? (before after text : String) : Option String :=
  match before.toList.isPrefixOf? text.toList with
  | none => none
  | some rest => (after.toList.isSuffixOf? rest).map String.ofList

theorem between?_eq_some_iff {before after text middle : String} :
    between? before after text = some middle ↔ text = before ++ middle ++ after := by
  unfold between?
  constructor
  · intro h
    cases hrest : before.toList.isPrefixOf? text.toList with
    | none =>
        rw [hrest] at h
        cases h
    | some rest =>
        rw [hrest] at h
        obtain ⟨cs, hcs, rfl⟩ := Option.map_eq_some_iff.mp h
        have hfront := List.isPrefixOf?_eq_some_iff_append_eq.mp hrest
        have hback := List.isSuffixOf?_eq_some_iff_append_eq.mp hcs
        apply String.toList_inj.mp
        simp [← hfront, ← hback]
  · rintro rfl
    have hfront : before.toList.isPrefixOf? (before ++ middle ++ after).toList =
        some (middle.toList ++ after.toList) := by
      rw [List.isPrefixOf?_eq_some_iff_append_eq]
      simp
    have hback : after.toList.isSuffixOf? (middle.toList ++ after.toList) = some middle.toList :=
      List.isSuffixOf?_eq_some_iff_append_eq.mpr rfl
    rw [hfront]
    dsimp only
    rw [hback, Option.map_some, String.ofList_toList]

end Text

namespace Path

/-- What has to be put between a directory and a name in it. -/
def separator (dir : Path) : String :=
  if dir.text = "" ∨ dir.text.toList.getLast? = some '/' then "" else "/"

theorem needsNoSeparator_iff {dir : Path} :
    dir.needsNoSeparator = true ↔ dir.text = "" ∨ dir.text.toList.getLast? = some '/' := by
  unfold needsNoSeparator
  cases hlast : dir.text.toList.getLast? with
  | none =>
      have hempty := List.getLast?_eq_none_iff.mp hlast
      simpa using hempty
  | some c =>
      have hne : dir.text ≠ "" := by
        intro hempty
        rw [hempty] at hlast
        cases hlast
      simp [hne]

theorem text_join_of_relative {dir p : Path} (h : p.isAbsolute = false) :
    (dir.join p).text = dir.text ++ dir.separator ++ p.text := by
  unfold join separator
  rw [if_neg (by simp [h])]
  by_cases hsep : dir.text = "" ∨ dir.text.toList.getLast? = some '/'
  · rw [if_pos (needsNoSeparator_iff.mpr hsep), if_pos hsep, String.append_empty]
  · rw [if_neg (mt needsNoSeparator_iff.mp hsep), if_neg hsep]

theorem join_inj {dir p other : Path} (hkind : p.isAbsolute = other.isAbsolute)
    (h : (dir.join p).text = (dir.join other).text) : p.text = other.text := by
  cases habsolute : p.isAbsolute with
  | true =>
      rw [join_of_isAbsolute habsolute, join_of_isAbsolute (hkind.symm.trans habsolute)] at h
      exact h
  | false =>
      rw [text_join_of_relative habsolute,
        text_join_of_relative (hkind.symm.trans habsolute)] at h
      have hlists := congrArg String.toList h
      simp only [String.toList_append, List.append_cancel_left_eq] at hlists
      exact String.toList_inj.mp hlists

end Path

namespace Settings

variable {settings : Settings} {target other : Target}

def outputName (settings : Settings) (target : Target) : String :=
  settings.outputStem ++ "_" ++ target.key ++ "." ++ settings.outputExtension

theorem outputPath_eq (settings : Settings) (directory : Path) (target : Target) :
    settings.outputPath directory target = directory.join ⟨settings.outputName target⟩ :=
  rfl

theorem outputName_inj (h : settings.outputName target = settings.outputName other) :
    target = other := by
  have hlists := congrArg String.toList h
  simp only [outputName, String.toList_append, List.append_cancel_left_eq,
    List.append_cancel_right_eq] at hlists
  exact Target.key_inj (String.toList_inj.mp hlists)

/-- Whether a name is taken for an absolute path depends on how it begins, which is not with the
target. -/
theorem isAbsolute_outputName (settings : Settings) (target : Target) :
    (⟨settings.outputName target⟩ : Path).isAbsolute =
      ((settings.outputStem ++ "_").toList.head? == some '/') := by
  have hhead : (settings.outputName target).toList.head? =
      (settings.outputStem ++ "_").toList.head? := by
    unfold outputName
    cases hstem : settings.outputStem.toList with
    | nil => simp [hstem]
    | cons c rest => simp [hstem]
  rw [Path.isAbsolute, hhead]

/-- The underscore keeps the name of an output from being one that every directory has. -/
theorem outputName_ne_of_notMem {name : String} (h : '_' ∉ name.toList) :
    settings.outputName target ≠ name := by
  rintro rfl
  exact h (by simp [outputName])

theorem plainName_outputName
    (hstem : '/' ∉ settings.outputStem.toList) (harch : '/' ∉ target.arch.toList)
    (hextension : '/' ∉ settings.outputExtension.toList) :
    Path.PlainName (settings.outputName target) := by
  have hsystem : '/' ∉ target.system.name.toList := by
    cases target.system <;> decide
  refine ⟨outputName_ne_of_notMem (by decide), ?_⟩
  simp [outputName, Target.key, hstem, hsystem, harch, hextension]

theorem between?_outputName (settings : Settings) (target : Target) :
    Text.between? (settings.outputStem ++ "_") ("." ++ settings.outputExtension)
      (settings.outputName target) = some target.key := by
  apply Text.between?_eq_some_iff.mpr
  rw [outputName]
  simp only [String.append_assoc]

/-- An output is named by its target.  Different targets have outputs with different paths, whatever
the parts of their names hold.  If no part holds a separator and there is an architecture, then the
output is one file in the output directory, and what is left of its name without the stem and the
extension is read as the target. -/
theorem output_path_encodes_target :
    (∀ (settings : Settings) (directory : Path) (target other : Target), target ≠ other →
      (settings.outputPath directory target).text ≠
        (settings.outputPath directory other).text) ∧
    ∀ (settings : Settings) (directory : Path) (target : Target), target.arch ≠ "" →
      '/' ∉ settings.outputStem.toList → '/' ∉ target.arch.toList →
      '/' ∉ settings.outputExtension.toList →
        ∃ name, Path.PlainName name ∧ name ≠ "." ∧ name ≠ ".." ∧
          (settings.outputPath directory target).text =
            directory.text ++ directory.separator ++ name ∧
          (settings.outputPath directory target).names = directory.names ++ [name] ∧
          ∃ token,
            Text.between? (settings.outputStem ++ "_") ("." ++ settings.outputExtension) name =
              some token ∧
            Target.parse token = .ok target := by
  constructor
  · intro settings directory target other hne hsame
    have hkind : (⟨settings.outputName target⟩ : Path).isAbsolute =
        (⟨settings.outputName other⟩ : Path).isAbsolute := by
      rw [isAbsolute_outputName, isAbsolute_outputName]
    rw [outputPath_eq, outputPath_eq] at hsame
    exact hne (outputName_inj (Path.join_inj hkind hsame))
  · intro settings directory target harch hstem hslash hextension
    have hplain : Path.PlainName (settings.outputName target) :=
      plainName_outputName hstem hslash hextension
    refine ⟨settings.outputName target, hplain, outputName_ne_of_notMem (by decide),
      outputName_ne_of_notMem (by decide), ?_, Path.names_div hplain, target.key,
      between?_outputName settings target, Target.parse_eq_ok_iff.mpr ⟨rfl, harch⟩⟩
    rw [outputPath_eq]
    exact Path.text_join_of_relative (Path.isAbsolute_of_plain hplain)

/-- A stem and an extension that hold the characters around the key. -/
def trickySettings : Settings :=
  { Settings.default with outputStem := "z_std.linux_", outputExtension := "tar.go" }

/-- The target is read from between them, although its architecture holds the same characters, and
another target has another output. -/
theorem tricky_output_is_read_back :
    (trickySettings.outputPath ⟨"gen/"⟩ ⟨.darwin, "mips64_le.x"⟩).text =
        "gen/z_std.linux__darwin_mips64_le.x.tar.go" ∧
      (trickySettings.outputPath ⟨"gen/"⟩ ⟨.linux, "_darwin_mips64_le.x"⟩).text ≠
        "gen/z_std.linux__darwin_mips64_le.x.tar.go" ∧
      ∃ name token, "gen/z_std.linux__darwin_mips64_le.x.tar.go" = "gen/" ++ "" ++ name ∧
        Text.between? "z_std.linux__" ".tar.go" name = some token ∧
        Target.parse token = .ok ⟨.darwin, "mips64_le.x"⟩ := by
  have hpath : (trickySettings.outputPath ⟨"gen/"⟩ ⟨.darwin, "mips64_le.x"⟩).text =
      "gen/z_std.linux__darwin_mips64_le.x.tar.go" := by
    decide
  obtain ⟨name, -, -, -, htext, -, token, htoken, htarget⟩ :=
    output_path_encodes_target.2 trickySettings ⟨"gen/"⟩ ⟨.darwin, "mips64_le.x"⟩ (by decide)
      (by decide) (by decide) (by decide)
  refine ⟨hpath, ?_, name, token, hpath.symm.trans htext, htoken, htarget⟩
  rw [← hpath]
  exact output_path_encodes_target.1 trickySettings ⟨"gen/"⟩ ⟨.linux, "_darwin_mips64_le.x"⟩
    ⟨.darwin, "mips64_le.x"⟩ (by decide)

end Settings

end CrossGen
