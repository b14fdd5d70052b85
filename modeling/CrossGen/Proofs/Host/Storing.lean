import CrossGen.Proofs.Host.Writing

/-!
# Storing content

A write that succeeds stores the content where the path leads: in a new file, in the file that stands
there, or in a device, which keeps nothing.  Nothing else changes, and the path leads to the content
afterwards.
-/

namespace CrossGen.FileSystem

variable {files written : FileSystem} {here loc : Location} {p : Path} {content : ByteArray}
  {place : Place}

/-- What comes of storing content at a place. -/
inductive Stores (files : FileSystem) (content : ByteArray) : Place → FileSystem → Prop
  | create {dir : Location} {name : String}
      (free : files.node? (dir.child name) = none) :
      Stores files content (.vacancy dir name)
        (files.put (dir.child name) (.file content false))
  | replace {loc : Location} {old : ByteArray} {executable : Bool}
      (stands : files.node? loc = some (.file old executable)) :
      Stores files content (.node loc) (files.put loc (.file content executable))
  | discard {loc : Location} {kind : Device}
      (stands : files.node? loc = some (.device kind)) :
      Stores files content (.node loc) files

/-! ## Writing through links -/

theorem stores_of_overwrite (h : files.overwrite loc content = .ok written) :
    Stores files content (.node loc) written := by
  unfold overwrite at h
  split at h
  · next old executable hnode =>
    cases h
    exact .replace hnode
  · cases h
  · cases h
  · next hnode =>
    cases h
    exact .discard hnode
  · next hnode =>
    cases h
    exact .discard hnode
  · next hnode =>
    split at h
    · cases h
      exact .discard hnode
    · cases h
  · cases h
  · cases h
  · cases h

theorem placeAbove_eq_ok_iff {place : Place} :
    files.placeAbove here p = .ok place ↔
      ∃ first, start here p = .ok first ∧ files.Leads longestChain first p.names.dropLast place := by
  simp only [FileSystem.placeAbove, ← walk_eq_ok_iff]
  cases start here p <;> simp

theorem steps_eq_append
    {name : String} (hends : p.endsInSeparator = false) (hlast : p.names.getLast? = some name) :
    p.steps = p.names.dropLast ++ [name] := by
  have hnames : p.names.dropLast ++ [name] = p.names := by
    obtain ⟨before, hbefore⟩ := List.getLast?_eq_some_iff.mp hlast
    rw [hbefore, List.dropLast_concat]
  rw [hnames, Path.steps, hends]
  rfl

/-- How writing goes on once the directory and the last name of the path are found. -/
def writeEntry (files : FileSystem) (content : ByteArray) (links : Nat) (dir : Location)
    (name : String) : Except IoError FileSystem :=
  match files.node? (dir.child name) with
  | none => .ok (files.put (dir.child name) (.file content false))
  | some (.link target) => (start dir target).bind fun first =>
      files.writeThrough content links first target
  | some _ => files.overwrite (dir.child name) content

theorem exists_entry_of_writeThrough
    {links : Nat} (h : files.writeThrough content (links + 1) here p = .ok written) :
    ∃ first dir name, start here p = .ok first ∧
      files.Leads longestChain first p.names.dropLast (.node dir) ∧
      files.node? dir = some .directory ∧ NamesEntry name ∧
      p.steps = p.names.dropLast ++ [name] ∧
      files.writeEntry content links dir name = .ok written := by
  unfold writeThrough at h
  split at h
  · cases h
  · cases h
  · next dir habove =>
    obtain ⟨first, hstart, hleads⟩ := placeAbove_eq_ok_iff.mp habove
    obtain ⟨hdir, h⟩ := of_guard h
    obtain ⟨hends, h⟩ := of_guard h
    split at h
    · cases h
    · next name hlast =>
      obtain ⟨hdots, h⟩ := of_guard h
      obtain ⟨hlong, h⟩ := of_guard h
      have hne : name ≠ "." ∧ name ≠ ".." := by simpa using hdots
      have hentry : NamesEntry name := ⟨hne.1, hne.2, Nat.le_of_not_lt hlong⟩
      have hsteps := steps_eq_append (Bool.eq_false_iff.mpr hends) hlast
      refine ⟨first, dir, name, hstart, hleads, Decidable.not_not.mp hdir, hentry, hsteps, ?_⟩
      unfold writeEntry
      cases hnode : files.node? (dir.child name) with
      | none =>
          rw [hnode] at h
          exact h
      | some node =>
          rw [hnode] at h
          cases node with
          | link target =>
              change (start dir target).bind _ = _
              cases hfirst : start dir target with
              | error e =>
                  simp only [hfirst] at h
                  cases h
              | ok next =>
                  simp only [hfirst] at h
                  exact h
          | _ => exact h

/-- Content that is written goes where the path leads.  Over how many links that is does not matter
here: every round of writing adds those on the way to its directory, and one for the next round. -/
theorem exists_stores_of_writeThrough
    {links : Nat} (h : files.writeThrough content links here p = .ok written) :
    ∃ first followed place, start here p = .ok first ∧
      files.Leads followed first p.steps place ∧ Stores files content place written := by
  induction links generalizing here p with
  | zero => cases h
  | succ links ih =>
      obtain ⟨first, dir, name, hstart, hleads, hdir, hentry, hsteps, hwritten⟩ :=
        exists_entry_of_writeThrough h
      have hlast {followed : Nat} {place : Place} (hplace : files.Leads followed dir [name] place)
          (hstores : Stores files content place written) :
          ∃ first followed place, start here p = .ok first ∧
            files.Leads followed first p.steps place ∧ Stores files content place written := by
        refine ⟨first, longestChain + followed, place, hstart, ?_, hstores⟩
        rw [hsteps]
        exact hleads.append hplace
      unfold writeEntry at hwritten
      split at hwritten
      · next hfree =>
        cases hwritten
        have hplace : files.Leads 0 dir [name] (.vacancy dir name) := .vacancy hdir hentry hfree
        exact hlast hplace (.create hfree)
      · next target hlink =>
        cases hnext : start dir target with
        | error e =>
            rw [hnext] at hwritten
            cases hwritten
        | ok next =>
            rw [hnext] at hwritten
            obtain ⟨again, followed, place, hagain, hfurther, hstores⟩ := ih hwritten
            -- The walk along the target starts where writing goes on.
            have hsame : again = if target.isAbsolute then .root else dir := by
              rw [eq_of_start hagain, eq_of_start hnext]
              split <;> rfl
            rw [hsame, ← List.append_nil target.steps] at hfurther
            exact hlast (.link hdir hentry hlink hfurther) hstores
      · next node hnoLink hnode =>
        have hplace : files.Leads 0 dir [name] (.node (dir.child name)) :=
          .down hdir hentry hnode hnoLink (.stop 0 _)
        exact hlast hplace (stores_of_overwrite hwritten)

/-- A write that succeeds stores the content where the path leads. -/
theorem exists_stores_of_write (h : files.write here p content = .ok written) :
    ∃ place, files.place here p = .ok place ∧ Stores files content place written := by
  unfold write at h
  split at h
  · cases h
  · next other hthrough =>
    split at h
    · cases h
    · next place hplace =>
      cases h
      obtain ⟨first, followed, found, hstart, hleads, hstores⟩ :=
        exists_stores_of_writeThrough hthrough
      obtain ⟨first', hstart', hleads'⟩ := place_eq_ok_iff.mp hplace
      obtain rfl := Except.ok.inj (hstart.symm.trans hstart')
      obtain rfl := hleads.place_unique hleads'
      exact ⟨_, hplace, hstores⟩

/-! ## What is there afterwards -/

theorem child_ne_root (dir : Location) (name : String) : dir.child name ≠ .root := by
  intro h
  exact List.append_ne_nil_of_right_ne_nil _ (List.cons_ne_nil _ _) (congrArg Location.names h)

theorem ne_root_of_file
    {old : ByteArray} {executable : Bool} (h : files.node? loc = some (.file old executable)) :
    loc ≠ .root := by
  rintro rfl
  rw [node?, if_pos rfl] at h
  cases h

/-- Nothing else changes. -/
theorem Stores.node?_eq
    (h : Stores files content place written) (hne : loc ≠ place.location) :
    written.node? loc = files.node? loc := by
  cases h with
  | create free => exact node?_put_of_ne files _ hne
  | replace stands => exact node?_put_of_ne files _ hne
  | discard stands => rfl

theorem Stores.onlyFilesWritten (h : Stores files content place written) :
    files.OnlyFilesWritten written := by
  cases h with
  | create free =>
      refine onlyFilesWritten_put (child_ne_root _ _) ?_ content false
      intro node hnode
      rw [free] at hnode
      cases hnode
  | @replace loc old executable stands =>
      refine onlyFilesWritten_put (ne_root_of_file stands) ?_ content executable
      intro node hnode
      rw [stands] at hnode
      cases hnode
      rfl
  | discard stands =>
      intro loc hchanged
      exact absurd rfl hchanged

/-- The content stands at the place, unless a device stands there and nothing changes. -/
theorem Stores.exists_file_or_device (h : Stores files content place written) :
    (∃ executable, written.node? place.location = some (.file content executable)) ∨
      (written = files ∧ ∃ kind, files.node? place.location = some (.device kind)) := by
  cases h with
  | create free => exact Or.inl ⟨false, node?_put_self files _ (child_ne_root _ _)⟩
  | replace stands => exact Or.inl ⟨_, node?_put_self files _ (ne_root_of_file stands)⟩
  | discard stands => exact Or.inr ⟨rfl, _, stands⟩

theorem Stores.read_eq
    (h : Stores files content place written) (hplace : files.place here p = .ok place)
    {executable : Bool} (hfile : written.node? place.location = some (.file content executable)) :
    written.read here p = .ok content := by
  obtain ⟨first, hstart, hleads⟩ := place_eq_ok_iff.mp hplace
  have hfound : written.Leads longestChain first p.steps (.node place.location) := by
    refine h.onlyFilesWritten.leads_location hleads ?_
    rintro dir name rfl
    exact ⟨_, hfile, rfl⟩
  have hlocate : written.locate here p = .ok place.location :=
    locate_eq_ok_iff.mpr ⟨first, hstart, hfound⟩
  unfold read
  rw [hlocate]
  dsimp only
  rw [contentAt, hfile]

end CrossGen.FileSystem
