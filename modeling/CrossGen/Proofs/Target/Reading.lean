import CrossGen.Proofs.Target.Key

/-!
# Reading targets

A token is read as a target exactly if it is the key of one, and a token that is not is refused for one
of two reasons: it has no two names with an underscore between them, or the first of its names is that
of no operating system.  The names are those in front of the first underscore and behind it, so that
architectures may hold underscores themselves.
-/

namespace CrossGen

namespace OperatingSystem

theorem mem_names_iff {name : String} :
    name ∈ ["linux", "darwin", "windows"] ↔ ∃ system : OperatingSystem, system.name = name := by
  constructor
  · intro h
    simp only [List.mem_cons, List.not_mem_nil, or_false] at h
    rcases h with rfl | rfl | rfl
    · exact ⟨linux, rfl⟩
    · exact ⟨darwin, rfl⟩
    · exact ⟨windows, rfl⟩
  · rintro ⟨system, rfl⟩
    cases system <;> decide

end OperatingSystem

namespace Target

/-- A token has no underscore, nothing in front of the first one, or nothing behind it. -/
def LacksName (token : String) : Prop :=
  '_' ∉ token.toList ∨
    ∃ before after, token = before ++ "_" ++ after ∧ '_' ∉ before.toList ∧
      (before = "" ∨ after = "")

variable {token : String}

theorem exists_parse_eq_ok_iff :
    (∃ target, parse token = .ok target) ↔
      ∃ name ∈ ["linux", "darwin", "windows"], ∃ rest ≠ "", token = name ++ "_" ++ rest := by
  constructor
  · rintro ⟨target, h⟩
    obtain ⟨hkey, harch⟩ := parse_eq_ok_iff.mp h
    exact ⟨target.system.name, OperatingSystem.mem_names_iff.mpr ⟨target.system, rfl⟩,
      target.arch, harch, hkey⟩
  · rintro ⟨name, hname, rest, hrest, htoken⟩
    obtain ⟨system, rfl⟩ := OperatingSystem.mem_names_iff.mp hname
    exact ⟨⟨system, rest⟩, parse_eq_ok_iff.mpr ⟨htoken, hrest⟩⟩

theorem parse_eq_malformed_iff {shown : String} :
    parse token = .error (.malformed shown) ↔ shown = token ∧ LacksName token := by
  rw [parse_eq_error_iff]
  constructor
  · intro h
    cases h with
    | uncut hcut => exact ⟨rfl, Or.inl hcut⟩
    | nameless hcut hempty => exact ⟨rfl, Or.inr ⟨_, _, rfl, hcut, hempty⟩⟩
  · rintro ⟨rfl, hcut | ⟨before, after, rfl, hcut, hempty⟩⟩
    · exact .uncut hcut
    · exact .nameless hcut hempty

theorem parse_eq_unknownSystem_iff {shown : String} :
    parse token = .error (.unknownSystem shown) ↔
      shown ≠ "" ∧ '_' ∉ shown.toList ∧ shown ∉ ["linux", "darwin", "windows"] ∧
        ∃ rest ≠ "", token = shown ++ "_" ++ rest := by
  rw [parse_eq_error_iff, OperatingSystem.mem_names_iff]
  constructor
  · intro h
    cases h with
    | unknown hcut hsystem harch hunknown =>
        have hnone : ¬∃ known : OperatingSystem, known.name = shown := fun ⟨known, hknown⟩ =>
          hunknown known hknown
        exact ⟨hsystem, hcut, hnone, _, harch, rfl⟩
  · rintro ⟨hsystem, hcut, hnone, rest, hrest, rfl⟩
    apply Misread.unknown hcut hsystem hrest
    intro known hknown
    exact hnone ⟨known, hknown⟩

/-- Every token is a key, or is refused with one of the two reasons. -/
theorem parse_cases (token : String) :
    (∃ target, parse token = .ok target) ∨
      parse token = .error (.malformed token) ∨
        ∃ shown, parse token = .error (.unknownSystem shown) := by
  cases h : parse token with
  | ok target => exact Or.inl ⟨target, rfl⟩
  | error e =>
      right
      cases parse_eq_error_iff.mp h with
      | uncut => exact Or.inl rfl
      | nameless => exact Or.inl rfl
      | unknown => exact Or.inr ⟨_, rfl⟩

/-- Reading accepts exactly the keys of targets.  A token is read as a target exactly if it is the name
of an operating system, an underscore and a text behind it, and then the token is the key of this
target, while every target with an architecture is read from its key.  A token is refused as malformed
exactly if it has no two names, and is told as it stands; in all other cases it is refused for its
system, which is told as it stands in front of the first underscore. -/
theorem keys_are_read_back (token : String) :
    ((∃ target, parse token = .ok target) ↔
      ∃ name ∈ ["linux", "darwin", "windows"], ∃ rest ≠ "", token = name ++ "_" ++ rest) ∧
    (∀ target, parse token = .ok target → target.key = token) ∧
    (∀ target : Target, target.arch ≠ "" → parse target.key = .ok target) ∧
    (∀ shown, parse token = .error (.malformed shown) ↔ shown = token ∧ LacksName token) ∧
    ((¬∃ target, parse token = .ok target) → ¬LacksName token →
      ∃ before after, token = before ++ "_" ++ after ∧ '_' ∉ before.toList ∧
        parse token = .error (.unknownSystem before)) := by
  refine ⟨exists_parse_eq_ok_iff, ?_, ?_, fun shown => parse_eq_malformed_iff, ?_⟩
  · intro target h
    exact (parse_eq_ok_iff.mp h).1.symm
  · intro target harch
    exact parse_eq_ok_iff.mpr ⟨rfl, harch⟩
  · intro hrefused hnames
    rcases parse_cases token with hread | hmalformed | ⟨shown, hunknown⟩
    · exact absurd hread hrefused
    · exact absurd (parse_eq_malformed_iff.mp hmalformed).2 hnames
    · obtain ⟨-, hcut, -, rest, -, htoken⟩ := parse_eq_unknownSystem_iff.mp hunknown
      exact ⟨shown, rest, htoken, hcut, hunknown⟩

/-- An architecture with an underscore is read back, and a system that there is not is told without the
underscores behind it. -/
theorem underscored_tokens_are_read :
    (⟨.linux, "mips64_le"⟩ : Target).arch ≠ "" ∧
      parse "linux_mips64_le" = .ok ⟨.linux, "mips64_le"⟩ ∧
      (¬∃ target, parse "plan9__x" = .ok target) ∧ ¬LacksName "plan9__x" ∧
      ∃ before after, "plan9__x" = before ++ "_" ++ after ∧ '_' ∉ before.toList ∧
        parse "plan9__x" = .error (.unknownSystem before) := by
  obtain ⟨-, -, hkey, -, -⟩ := keys_are_read_back "linux_mips64_le"
  obtain ⟨-, -, -, hmalformed, hunknown⟩ := keys_are_read_back "plan9__x"
  have harch : (⟨.linux, "mips64_le"⟩ : Target).arch ≠ "" := by decide
  have hanswer : parse "plan9__x" = .error (.unknownSystem "plan9") := by decide
  have hrefused : ¬∃ target, parse "plan9__x" = .ok target := by
    rintro ⟨target, h⟩
    rw [hanswer] at h
    cases h
  have hnames : ¬LacksName "plan9__x" := by
    intro hlacks
    have h := (hmalformed "plan9__x").mpr ⟨rfl, hlacks⟩
    rw [hanswer] at h
    cases h
  exact ⟨harch, hkey _ harch, hrefused, hnames, hunknown hrefused hnames⟩

end Target

end CrossGen
