import CrossGen.Host.Storage

/-!
# Where walks lead

A walk is described here name by name, without the program: it stays, goes up, follows a link, goes
down, or ends where a node could be made.  What is proved of walks elsewhere follows this
description.
-/

namespace CrossGen

theorem of_guard
    {ε α : Type} {refused : Prop} [Decidable refused] {e : ε} {further : Except ε α} {a : α}
    (h : (if refused then .error e else further) = .ok a) : ¬refused ∧ further = .ok a := by
  by_cases hrefused : refused
  · rw [if_pos hrefused] at h
    cases h
  · rw [if_neg hrefused] at h
    exact ⟨hrefused, h⟩

namespace FileSystem

variable {files : FileSystem} {here : Location}

/-- A name that a directory can hold, as opposed to the two that every directory has. -/
structure NamesEntry (name : String) : Prop where
  ne_dot : name ≠ "."
  ne_dots : name ≠ ".."
  short : name.utf8ByteSize ≤ longestName

/-- The names lead from a directory to a place over at most the given number of links. -/
inductive Leads (files : FileSystem) : Nat → Location → List String → Place → Prop
  | stop (links : Nat) (here : Location) : Leads files links here [] (.node here)
  | stay {links : Nat} {here : Location} {rest : List String} {place : Place}
      (directory : files.node? here = some .directory)
      (further : Leads files links here rest place) :
      Leads files links here ("." :: rest) place
  | up {links : Nat} {here : Location} {rest : List String} {place : Place}
      (directory : files.node? here = some .directory)
      (further : Leads files links here.parent rest place) :
      Leads files links here (".." :: rest) place
  | link {links : Nat} {here : Location} {name : String} {rest : List String} {target : Path}
      {place : Place}
      (directory : files.node? here = some .directory) (entry : NamesEntry name)
      (stands : files.node? (here.child name) = some (.link target))
      (further : Leads files links (if target.isAbsolute then .root else here)
        (target.steps ++ rest) place) :
      Leads files (links + 1) here (name :: rest) place
  | down {links : Nat} {here : Location} {name : String} {rest : List String} {node : Node}
      {place : Place}
      (directory : files.node? here = some .directory) (entry : NamesEntry name)
      (stands : files.node? (here.child name) = some node) (noLink : ∀ target, node ≠ .link target)
      (further : Leads files links (here.child name) rest place) :
      Leads files links here (name :: rest) place
  | vacancy {links : Nat} {here : Location} {name : String}
      (directory : files.node? here = some .directory) (entry : NamesEntry name)
      (free : files.node? (here.child name) = none) :
      Leads files links here [name] (.vacancy here name)

/-- A walk leads where it says, if what follows its links does with one link less. -/
theorem leads_of_walkWith
    {follow : Location → List String → Except IoError Place} {links : Nat}
    (hfollow : ∀ here names place, follow here names = .ok place →
      ∃ fewer, links = fewer + 1 ∧ files.Leads fewer here names place)
    {names : List String} {place : Place} (h : files.walkWith follow here names = .ok place) :
    files.Leads links here names place := by
  induction names generalizing here with
  | nil =>
      cases h
      exact .stop links here
  | cons name rest ih =>
      unfold walkWith at h
      split at h
      · next hhere =>
        by_cases hdot : name = "."
        · subst hdot
          exact .stay hhere (ih (by simpa using h))
        · rw [if_neg hdot] at h
          by_cases hdots : name = ".."
          · subst hdots
            exact .up hhere (ih (by simpa using h))
          · rw [if_neg hdots] at h
            split at h
            · cases h
            · next hlong =>
              have hentry : NamesEntry name := ⟨hdot, hdots, Nat.le_of_not_lt hlong⟩
              split at h
              · next hfree =>
                split at h
                · next hlast =>
                  cases h
                  rw [List.isEmpty_iff.mp hlast]
                  exact .vacancy hhere hentry hfree
                · cases h
              · next target hlink =>
                obtain ⟨fewer, rfl, hfurther⟩ := hfollow _ _ _ h
                exact .link hhere hentry hlink hfurther
              · next node hnoLink hnode => exact .down hhere hentry hnode hnoLink (ih h)
      · cases h

theorem leads_of_walk
    {links : Nat} {names : List String} {place : Place}
    (h : files.walk links here names = .ok place) :
    files.Leads links here names place := by
  induction links generalizing here names place with
  | zero =>
      refine leads_of_walkWith ?_ h
      intro here names place hfollow
      cases hfollow
  | succ links ih =>
      refine leads_of_walkWith ?_ h
      intro here names place hfollow
      exact ⟨links, rfl, ih hfollow⟩

theorem walk_dot
    (links : Nat) (rest : List String) (hhere : files.node? here = some .directory) :
    files.walk links here ("." :: rest) = files.walk links here rest := by
  cases links <;> rw [walk, walkWith, hhere] <;> rfl

theorem walk_dots
    (links : Nat) (rest : List String) (hhere : files.node? here = some .directory) :
    files.walk links here (".." :: rest) = files.walk links here.parent rest := by
  cases links <;> rw [walk, walkWith, hhere] <;> rfl

theorem walkWith_entry
    {name : String} (follow : Location → List String → Except IoError Place) (rest : List String)
    (hhere : files.node? here = some .directory) (hentry : NamesEntry name) :
    files.walkWith follow here (name :: rest) =
      match files.node? (here.child name) with
      | none => if rest.isEmpty then .ok (.vacancy here name) else .error .notFound
      | some (.link target) =>
        follow (if target.isAbsolute then .root else here) (target.steps ++ rest)
      | some _ => files.walkWith follow (here.child name) rest := by
  have hshort := Nat.not_lt.mpr hentry.short
  rw [walkWith, hhere]
  exact (if_neg hentry.ne_dot).trans ((if_neg hentry.ne_dots).trans (if_neg hshort))

theorem walk_entry
    {name : String} (links : Nat) (rest : List String)
    (hhere : files.node? here = some .directory) (hentry : NamesEntry name) :
    files.walk links here (name :: rest) =
      match files.node? (here.child name) with
      | none => if rest.isEmpty then .ok (.vacancy here name) else .error .notFound
      | some (.link target) =>
        match links with
        | 0 => .error .tooManyLinks
        | links + 1 =>
          files.walk links (if target.isAbsolute then .root else here) (target.steps ++ rest)
      | some _ => files.walk links (here.child name) rest := by
  cases links with
  | zero => exact walkWith_entry _ rest hhere hentry
  | succ links => exact walkWith_entry _ rest hhere hentry

theorem Leads.walk_eq
    {links : Nat} {names : List String} {place : Place}
    (h : files.Leads links here names place) :
    files.walk links here names = .ok place := by
  induction h with
  | stop links here => cases links <;> rfl
  | stay directory further ih => rw [walk_dot _ _ directory, ih]
  | up directory further ih => rw [walk_dots _ _ directory, ih]
  | link directory entry stands further ih =>
      rw [walk_entry _ _ directory entry, stands]
      exact ih
  | @down _ _ _ _ node _ directory entry stands noLink further ih =>
      rw [walk_entry _ _ directory entry, stands]
      cases node with
      | link target => exact absurd rfl (noLink target)
      | _ => exact ih
  | vacancy directory entry free =>
      rw [walk_entry _ _ directory entry, free]
      rfl

theorem walk_eq_ok_iff {links : Nat} {names : List String} {place : Place} :
    files.walk links here names = .ok place ↔ files.Leads links here names place :=
  ⟨leads_of_walk, Leads.walk_eq⟩

/-- Nothing stands where a node could be made. -/
theorem Leads.node?_eq_none
    {links : Nat} {names : List String} {dir : Location} {name : String}
    (h : files.Leads links here names (.vacancy dir name)) :
    files.node? (dir.child name) = none := by
  generalize hplace : Place.vacancy dir name = place at h
  induction h with
  | stop links here => cases hplace
  | stay directory further ih => exact ih hplace
  | up directory further ih => exact ih hplace
  | link directory entry stands further ih => exact ih hplace
  | down directory entry stands noLink further ih => exact ih hplace
  | vacancy directory entry free =>
      cases hplace
      exact free

/-- A walk over one more name goes to a directory first and, unless a link stands there, ends at the
entry of that name. -/
theorem Leads.exists_directory
    {links : Nat} {names : List String} {name : String} {loc : Location}
    (hname : name ≠ "." ∧ name ≠ "..") (h : files.Leads links here (names ++ [name]) (.node loc)) :
    ∃ dir, files.Leads links here names (.node dir) ∧
      ((∀ target, files.node? (dir.child name) ≠ some (.link target)) → loc = dir.child name) := by
  generalize hall : names ++ [name] = all, hplace : Place.node loc = place at h
  induction h generalizing names with
  | stop links here => simp at hall
  | stay directory further ih =>
      rcases List.append_eq_cons_iff.mp hall with ⟨rfl, hlast⟩ | ⟨others, rfl, rfl⟩
      · exact absurd (List.cons.inj hlast).1 hname.1
      · obtain ⟨dir, hdir, hloc⟩ := ih rfl hplace
        exact ⟨dir, .stay directory hdir, hloc⟩
  | up directory further ih =>
      rcases List.append_eq_cons_iff.mp hall with ⟨rfl, hlast⟩ | ⟨others, rfl, rfl⟩
      · exact absurd (List.cons.inj hlast).1 hname.2
      · obtain ⟨dir, hdir, hloc⟩ := ih rfl hplace
        exact ⟨dir, .up directory hdir, hloc⟩
  | @link links here _ _ target _ directory entry stands further ih =>
      rcases List.append_eq_cons_iff.mp hall with ⟨rfl, hlast⟩ | ⟨others, rfl, rfl⟩
      · obtain ⟨rfl, -⟩ := List.cons.inj hlast
        exact ⟨here, .stop _ here, fun hnoLink => absurd stands (hnoLink target)⟩
      · -- The last name is still the last one behind the names of the target.
        obtain ⟨dir, hdir, hloc⟩ := ih (List.append_assoc _ _ _) hplace
        exact ⟨dir, .link directory entry stands hdir, hloc⟩
  | @down links here _ _ _ _ directory entry stands noLink further ih =>
      rcases List.append_eq_cons_iff.mp hall with ⟨rfl, hlast⟩ | ⟨others, rfl, rfl⟩
      · obtain ⟨rfl, rfl⟩ := List.cons.inj hlast
        cases further
        cases hplace
        exact ⟨here, .stop links here, fun _ => rfl⟩
      · obtain ⟨dir, hdir, hloc⟩ := ih rfl hplace
        exact ⟨dir, .down directory entry stands noLink hdir, hloc⟩
  | vacancy directory entry free => cases hplace

theorem Leads.place_eq
    {links : Nat} {names : List String} {place other : Place}
    (h : files.Leads links here names place) (hother : files.Leads links here names other) :
    place = other :=
  Except.ok.inj (h.walk_eq.symm.trans hother.walk_eq)

theorem Leads.mono
    {links more : Nat} {names : List String} {place : Place}
    (h : files.Leads links here names place) (hle : links ≤ more) :
    files.Leads more here names place := by
  induction h generalizing more with
  | stop links here => exact .stop more here
  | stay directory further ih => exact .stay directory (ih hle)
  | up directory further ih => exact .up directory (ih hle)
  | link directory entry stands further ih =>
      obtain ⟨fewer, rfl⟩ := Nat.exists_eq_add_of_lt (Nat.lt_of_succ_le hle)
      exact .link directory entry stands (ih (Nat.le_add_right _ _))
  | down directory entry stands noLink further ih =>
      exact .down directory entry stands noLink (ih hle)
  | vacancy directory entry free => exact .vacancy directory entry free

/-- However many links may be followed, names lead to one place only. -/
theorem Leads.place_unique
    {links more : Nat} {names : List String} {place other : Place}
    (h : files.Leads links here names place) (hother : files.Leads more here names other) :
    place = other :=
  (h.mono (Nat.le_max_left links more)).place_eq (hother.mono (Nat.le_max_right links more))

/-- From the directory that some names lead to, a walk goes on over further names. -/
theorem Leads.append
    {links more : Nat} {names rest : List String} {dir : Location} {place : Place}
    (h : files.Leads links here names (.node dir)) (hrest : files.Leads more dir rest place) :
    files.Leads (links + more) here (names ++ rest) place := by
  generalize hdir : Place.node dir = middle at h
  induction h with
  | stop links here =>
      cases hdir
      exact hrest.mono (Nat.le_add_left more links)
  | stay directory further ih => exact .stay directory (ih hdir)
  | up directory further ih => exact .up directory (ih hdir)
  | @link links here name rest' target middle directory entry stands further ih =>
      have hfurther := ih hdir
      rw [List.append_assoc] at hfurther
      rw [Nat.succ_add]
      exact .link directory entry stands hfurther
  | down directory entry stands noLink further ih =>
      exact .down directory entry stands noLink (ih hdir)
  | vacancy directory entry free => cases hdir

/-! ## Paths -/

theorem eq_of_start
    {here first : Location} {p : Path} (h : start here p = .ok first) :
    first = if p.isAbsolute then .root else here := by
  obtain ⟨-, h⟩ := of_guard h
  obtain ⟨-, h⟩ := of_guard h
  obtain ⟨-, h⟩ := of_guard h
  exact (Except.ok.inj h).symm

theorem place_eq_ok_iff {p : Path} {place : Place} :
    files.place here p = .ok place ↔
      ∃ first, start here p = .ok first ∧ files.Leads longestChain first p.steps place := by
  simp only [FileSystem.place, ← walk_eq_ok_iff]
  cases start here p <;> simp

theorem locate_eq_ok_iff {p : Path} {loc : Location} :
    files.locate here p = .ok loc ↔
      ∃ first, start here p = .ok first ∧
        files.Leads longestChain first p.steps (.node loc) := by
  simp only [locate, ← walk_eq_ok_iff]
  cases start here p with
  | error e => simp
  | ok first =>
      dsimp only
      cases hwalk : files.walk longestChain first p.steps with
      | error e => simp [hwalk]
      | ok place => cases place <;> simp [hwalk]

theorem fileAt?_eq_some_iff {p : Path} {loc : Location} :
    files.fileAt? here p = some loc ↔
      files.locate here p = .ok loc ∧ ∃ node, files.node? loc = some node ∧ node.isFile = true := by
  unfold fileAt?
  cases hlocate : files.locate here p with
  | error e => simp
  | ok found =>
      dsimp only
      by_cases hfile : (files.node? found).any Node.isFile = true
      · rw [if_pos hfile]
        obtain ⟨node, hnode, hnodeFile⟩ := Option.any_eq_true _ _ |>.mp hfile
        constructor
        · rintro ⟨⟩
          exact ⟨rfl, node, hnode, hnodeFile⟩
        · rintro ⟨⟨⟩, -⟩
          rfl
      · rw [if_neg hfile]
        refine iff_of_false nofun ?_
        rintro ⟨⟨⟩, node, hnode, hnodeFile⟩
        exact hfile (by rw [hnode]; exact hnodeFile)

/-- An absolute path leads to the same place from every directory. -/
theorem locate_of_isAbsolute
    {p : Path} (h : p.isAbsolute = true) (files : FileSystem) (here other : Location) :
    files.locate here p = files.locate other p := by
  have hstart : start here p = start other p := by
    unfold start
    rw [h]
    rfl
  unfold locate
  rw [hstart]

theorem read_eq_of_locate_eq
    {files : FileSystem} {here other : Location} {p : Path}
    (h : files.locate here p = files.locate other p) :
    files.read here p = files.read other p := by
  unfold read
  rw [h]

theorem exists_locate_of_read
    {files : FileSystem} {here : Location} {p : Path} {content : ByteArray}
    (h : files.read here p = .ok content) :
    ∃ loc, files.locate here p = .ok loc := by
  unfold read at h
  cases hlocate : files.locate here p with
  | error e =>
      rw [hlocate] at h
      cases h
  | ok loc => exact ⟨loc, rfl⟩

end FileSystem

end CrossGen
