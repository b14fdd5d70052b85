import CrossGen.Proofs.Text.Fields
import CrossGen.Target.Basic

/-!
# Keys of targets

The tokens that are read as targets are exactly the keys of targets with a nonempty architecture.
-/

namespace CrossGen

theorem OperatingSystem.name_ne_empty (system : OperatingSystem) : system.name ≠ "" := by
  cases system <;> decide

theorem OperatingSystem.underscore_notMem_name (system : OperatingSystem) :
    '_' ∉ system.name.toList := by
  cases system <;> decide

theorem OperatingSystem.parse_eq_ok_iff {text : String} {system : OperatingSystem} :
    OperatingSystem.parse text = .ok system ↔ text = system.name := by
  unfold OperatingSystem.parse
  constructor
  · intro h
    cases hof : OperatingSystem.ofName? text with
    | none =>
        rw [hof] at h
        cases h
    | some found =>
        rw [hof] at h
        cases h
        exact (OperatingSystem.name_of_ofName? hof).symm
  · rintro rfl
    rw [OperatingSystem.ofName?_name]

theorem OperatingSystem.parse_eq_error_iff {text : String} {e : TargetError} :
    OperatingSystem.parse text = .error e ↔
      (∀ system : OperatingSystem, system.name ≠ text) ∧ e = .unknownSystem text := by
  constructor
  · intro h
    constructor
    · rintro system rfl
      rw [parse_eq_ok_iff.mpr rfl] at h
      cases h
    · unfold OperatingSystem.parse at h
      split at h
      · cases h
      · exact (Except.error.inj h).symm
  · rintro ⟨hunknown, rfl⟩
    unfold OperatingSystem.parse
    split
    · next system hsystem => exact absurd (name_of_ofName? hsystem) (hunknown system)
    · rfl

namespace Target

theorem cutAt?_names {system : String} (hcut : '_' ∉ system.toList) (arch : String) :
    Text.cutAt? '_' (system ++ "_" ++ arch) = some (system, arch) :=
  Text.cutAt?_eq_some_iff.mpr ⟨rfl, hcut⟩

theorem cutAt?_key (target : Target) :
    Text.cutAt? '_' target.key = some (target.system.name, target.arch) :=
  cutAt?_names target.system.underscore_notMem_name target.arch

/-- Different targets have different keys. -/
theorem key_inj {target other : Target} (h : target.key = other.key) : target = other := by
  have hnames := target.cutAt?_key
  rw [h, other.cutAt?_key] at hnames
  obtain ⟨hsystem, harch⟩ := Prod.mk.inj (Option.some.inj hnames)
  have hsystems := OperatingSystem.ofName?_name target.system
  rw [← hsystem, OperatingSystem.ofName?_name] at hsystems
  cases target
  cases other
  cases harch
  cases hsystems
  rfl

/-- A key is read as its target, and nothing else is. -/
theorem parse_eq_ok_iff {token : String} {target : Target} :
    parse token = .ok target ↔ token = target.key ∧ target.arch ≠ "" := by
  unfold parse
  constructor
  · intro h
    cases hcut : Text.cutAt? '_' token with
    | none =>
        rw [hcut] at h
        cases h
    | some names =>
        obtain ⟨system, arch⟩ := names
        rw [hcut] at h
        dsimp only at h
        split at h
        · cases h
        · next hnames =>
          cases hsystem : OperatingSystem.parse system with
          | error e =>
              rw [hsystem] at h
              cases h
          | ok found =>
              rw [hsystem] at h
              cases h
              have harch : arch ≠ "" := by
                rintro rfl
                exact hnames (by simp)
              obtain rfl := OperatingSystem.parse_eq_ok_iff.mp hsystem
              exact ⟨(Text.cutAt?_eq_some_iff.mp hcut).1, harch⟩
  · rintro ⟨rfl, harch⟩
    have hnames : ¬(target.system.name.isEmpty || target.arch.isEmpty) = true := by
      simp [target.system.name_ne_empty, harch]
    rw [cutAt?_key]
    dsimp only
    rw [if_neg hnames, OperatingSystem.parse_eq_ok_iff.mpr rfl]

/-- Why a token is not the key of a target: it cannot be cut into two names, one of them is empty,
or the first one is no operating system. -/
inductive Misread : String → TargetError → Prop
  | uncut {token : String} (hcut : '_' ∉ token.toList) : Misread token (.malformed token)
  | nameless {system arch : String} (hcut : '_' ∉ system.toList)
      (hempty : system = "" ∨ arch = "") :
      Misread (system ++ "_" ++ arch) (.malformed (system ++ "_" ++ arch))
  | unknown {system arch : String} (hcut : '_' ∉ system.toList)
      (hsystem : system ≠ "") (harch : arch ≠ "")
      (hunknown : ∀ known : OperatingSystem, known.name ≠ system) :
      Misread (system ++ "_" ++ arch) (.unknownSystem system)

theorem parse_of_cutAt?
    {token system arch : String} (h : Text.cutAt? '_' token = some (system, arch)) :
    parse token =
      if system = "" ∨ arch = "" then .error (.malformed token)
      else (OperatingSystem.parse system).map fun known => ⟨known, arch⟩ := by
  have hnames : (system.isEmpty || arch.isEmpty) = true ↔ system = "" ∨ arch = "" := by simp
  unfold parse
  rw [h]
  dsimp only
  by_cases hempty : system = "" ∨ arch = ""
  · rw [if_pos (hnames.mpr hempty), if_pos hempty]
  · rw [if_neg (mt hnames.mp hempty), if_neg hempty]
    cases OperatingSystem.parse system <;> rfl

/-- A token that is no key is refused with what keeps it from being one. -/
theorem parse_eq_error_iff {token : String} {e : TargetError} :
    parse token = .error e ↔ Misread token e := by
  constructor
  · intro h
    cases hcut : Text.cutAt? '_' token with
    | none =>
        rw [parse, hcut] at h
        cases h
        exact .uncut (Text.cutAt?_eq_none_iff.mp hcut)
    | some names =>
        obtain ⟨system, arch⟩ := names
        obtain ⟨htoken, hsystem⟩ := Text.cutAt?_eq_some_iff.mp hcut
        rw [parse_of_cutAt? hcut] at h
        have hkey : token = system ++ "_" ++ arch := htoken
        by_cases hempty : system = "" ∨ arch = ""
        · rw [if_pos hempty] at h
          cases h
          rw [hkey]
          exact .nameless hsystem hempty
        · rw [if_neg hempty] at h
          obtain ⟨hfirst, hsecond⟩ := not_or.mp hempty
          cases hparse : OperatingSystem.parse system with
          | ok known =>
              rw [hparse] at h
              cases h
          | error other =>
              rw [hparse] at h
              cases h
              obtain ⟨hunknown, rfl⟩ := OperatingSystem.parse_eq_error_iff.mp hparse
              rw [hkey]
              exact .unknown hsystem hfirst hsecond hunknown
  · intro h
    cases h with
    | uncut hcut => rw [parse, Text.cutAt?_eq_none_iff.mpr hcut]
    | nameless hcut hempty =>
        rw [parse_of_cutAt? (cutAt?_names hcut _), if_pos hempty]
    | unknown hcut hsystem harch hunknown =>
        rw [parse_of_cutAt? (cutAt?_names hcut _), if_neg (not_or.mpr ⟨hsystem, harch⟩),
          OperatingSystem.parse_eq_error_iff.mpr ⟨hunknown, rfl⟩]
        rfl

end Target

end CrossGen
