import CrossGen.Host.Basic

/-!
# Actions one after the other

An action that succeeds hands its answer and the host on to the next one, and an action that fails
ends the whole with the host as it left it.
-/

namespace CrossGen

section Sequence

variable {ε δ σ α β : Type}

theorem bind_of_ok
    {act : EStateM ε σ α} {s t : σ} {a : α} (h : act s = .ok a t) (next : α → EStateM ε σ β) :
    (act >>= next) s = next a t := by
  simp only [bind, EStateM.bind, h]

theorem bind_of_error
    {act : EStateM ε σ α} {s t : σ} {e : ε} (h : act s = .error e t) (next : α → EStateM ε σ β) :
    (act >>= next) s = .error e t := by
  simp only [bind, EStateM.bind, h]

theorem bind_get (next : σ → EStateM ε σ β) (s : σ) :
    (get >>= next : EStateM ε σ β) s = next s s :=
  rfl

theorem bind_eq_ok_iff
    {act : EStateM ε σ α} {next : α → EStateM ε σ β} {s t : σ} {b : β} :
    (act >>= next) s = .ok b t ↔ ∃ a u, act s = .ok a u ∧ next a u = .ok b t := by
  constructor
  · intro h
    cases hfirst : act s with
    | ok a u =>
        rw [bind_of_ok hfirst] at h
        exact ⟨a, u, rfl, h⟩
    | error e u =>
        rw [bind_of_error hfirst] at h
        cases h
  · rintro ⟨a, u, hfirst, h⟩
    rw [bind_of_ok hfirst, h]

theorem bind_eq_error_iff
    {act : EStateM ε σ α} {next : α → EStateM ε σ β} {s t : σ} {e : ε} :
    (act >>= next) s = .error e t ↔
      act s = .error e t ∨ ∃ a u, act s = .ok a u ∧ next a u = .error e t := by
  constructor
  · intro h
    cases hfirst : act s with
    | ok a u =>
        rw [bind_of_ok hfirst] at h
        exact Or.inr ⟨a, u, rfl, h⟩
    | error other u =>
        rw [bind_of_error hfirst] at h
        cases h
        exact Or.inl rfl
  · rintro (hfirst | ⟨a, u, hfirst, h⟩)
    · exact bind_of_error hfirst next
    · rw [bind_of_ok hfirst, h]

theorem pure_eq_ok_iff {s t : σ} {a b : α} :
    (pure a : EStateM ε σ α) s = .ok b t ↔ a = b ∧ s = t := by
  constructor
  · intro h
    cases h
    exact ⟨rfl, rfl⟩
  · rintro ⟨rfl, rfl⟩
    rfl

def error? : EStateM.Result ε σ α → Option ε
  | .ok _ _ => none
  | .error e _ => some e

theorem exists_eq_error {answer : EStateM.Result ε σ α} {e : ε} (h : error? answer = some e) :
    ∃ t, answer = .error e t := by
  cases answer with
  | ok a t => cases h
  | error other t =>
      cases h
      exact ⟨t, rfl⟩

/-- Whatever the state is, an action that fails does so with an error of the given kind. -/
def FailsOnlyWith (kind : ε → Prop) (act : EStateM ε σ α) : Prop :=
  ∀ s e t, act s = .error e t → kind e

theorem failsOnlyWith_pure (kind : ε → Prop) (a : α) :
    FailsOnlyWith kind (pure a : EStateM ε σ α) := by
  intro s e t h
  cases h

theorem failsOnlyWith_throw {kind : ε → Prop} {e : ε} (he : kind e) :
    FailsOnlyWith kind (throw e : EStateM ε σ α) := by
  intro s other t h
  cases h
  exact he

theorem failsOnlyWith_get (kind : ε → Prop) : FailsOnlyWith kind (get : EStateM ε σ σ) := by
  intro s e t h
  cases h

theorem FailsOnlyWith.bind
    {kind : ε → Prop} {act : EStateM ε σ α} {next : α → EStateM ε σ β}
    (hact : FailsOnlyWith kind act) (hnext : ∀ a, FailsOnlyWith kind (next a)) :
    FailsOnlyWith kind (act >>= next) := by
  intro s e t h
  cases hfirst : act s with
  | ok a u =>
      rw [bind_of_ok hfirst] at h
      exact hnext a u e t h
  | error other u =>
      rw [bind_of_error hfirst] at h
      cases h
      exact hact s e t hfirst

end Sequence

namespace Host

variable {ε δ α : Type}

theorem failAs_of_ok
    {act : Act ε α} {host next : Host} {a : α} (h : act host = .ok a next) (f : ε → δ) :
    failAs f act host = .ok a next := by
  rw [failAs, h]

theorem failAs_of_error
    {act : Act ε α} {host next : Host} {e : ε} (h : act host = .error e next) (f : ε → δ) :
    failAs f act host = .error (f e) next := by
  rw [failAs, h]

theorem failAs_eq_ok_iff {act : Act ε α} {f : ε → δ} {host next : Host} {a : α} :
    failAs f act host = .ok a next ↔ act host = .ok a next := by
  constructor
  · intro h
    cases hact : act host with
    | ok b last =>
        rw [failAs_of_ok hact] at h
        cases h
        rfl
    | error e last =>
        rw [failAs_of_error hact] at h
        cases h
  · intro h
    exact failAs_of_ok h f

theorem failAs_eq_error_iff {act : Act ε α} {f : ε → δ} {host next : Host} {d : δ} :
    failAs f act host = .error d next ↔ ∃ e, act host = .error e next ∧ f e = d := by
  constructor
  · intro h
    cases hact : act host with
    | ok b last =>
        rw [failAs_of_ok hact] at h
        cases h
    | error e last =>
        rw [failAs_of_error hact] at h
        cases h
        exact ⟨e, rfl, rfl⟩
  · rintro ⟨e, hact, rfl⟩
    exact failAs_of_error hact f

theorem ofExcept_eq_ok_iff {answer : Except ε α} {host next : Host} {a : α} :
    ofExcept answer host = .ok a next ↔ answer = .ok a ∧ host = next := by
  cases answer with
  | ok b =>
      rw [Except.ok.injEq]
      exact pure_eq_ok_iff
  | error e => exact iff_of_false nofun nofun

theorem ofExcept_eq_error_iff {answer : Except ε α} {host next : Host} {e : ε} :
    ofExcept answer host = .error e next ↔ answer = .error e ∧ host = next := by
  cases answer with
  | ok a => exact iff_of_false nofun nofun
  | error other =>
      constructor
      · intro h
        cases h
        exact ⟨rfl, rfl⟩
      · rintro ⟨⟨⟩, rfl⟩
        rfl

theorem failsOnlyWith_failAs
    {kind : δ → Prop} {f : ε → δ} (h : ∀ e, kind (f e)) (act : Act ε α) :
    FailsOnlyWith kind (failAs f act) := by
  intro host e next hfailed
  cases hact : act host with
  | ok a last =>
      rw [failAs_of_ok hact] at hfailed
      cases hfailed
  | error cause last =>
      rw [failAs_of_error hact] at hfailed
      cases hfailed
      exact h cause

theorem failsOnlyWith_isFile (kind : ε → Prop) (p : Path) :
    FailsOnlyWith kind (isFile p : Act ε Bool) :=
  (failsOnlyWith_get kind).bind fun _ => failsOnlyWith_pure kind _

theorem isFile_eq (p : Path) (host : Host) :
    (isFile p : Act ε Bool) host = .ok (host.files.isFile host.directory p) host :=
  rfl

theorem readFile_of_ok
    {p : Path} {host : Host} {content : ByteArray}
    (h : host.files.read host.directory p = .ok content) :
    readFile p host = .ok content host := by
  rw [readFile, bind_get, h]
  rfl

theorem readFile_of_error
    {p : Path} {host : Host} {e : IoError}
    (h : host.files.read host.directory p = .error e) :
    readFile p host = .error e host := by
  rw [readFile, bind_get, h]
  rfl

theorem writeFile_of_ok
    {p : Path} {host : Host} {content : ByteArray} {files : FileSystem}
    (h : host.files.write host.directory p content = .ok files) :
    writeFile p content host = .ok () { host with files := files } := by
  rw [writeFile, bind_get, h]
  rfl

theorem writeFile_of_error
    {p : Path} {host : Host} {content : ByteArray} {e : IoError}
    (h : host.files.write host.directory p content = .error e) :
    writeFile p content host = .error e host := by
  rw [writeFile, bind_get, h]
  rfl

end Host

end CrossGen
