import CrossGen.Host.Basic
import CrossGen.Proofs.Host.Walking

/-!
# Writing files

A change that only writes files leaves every path that leads to a node where it leads: walks pass
over directories and links, and those stay.  What a file holds stays too, unless the path that is
written leads to that very file.
-/

namespace CrossGen

def Place.location : Place → Location
  | .node loc => loc
  | .vacancy dir name => dir.child name

namespace FileSystem

variable {files others : FileSystem} {here loc : Location}

/-- Wherever the file systems differ, a file or nothing stood before and a file stands afterwards. -/
def OnlyFilesWritten (files others : FileSystem) : Prop :=
  ∀ loc, others.node? loc ≠ files.node? loc →
    (∀ node, files.node? loc = some node → node.isFile = true) ∧
      ∃ node, others.node? loc = some node ∧ node.isFile = true

theorem eq_of_node?_put_ne
    {other : Location} {node : Node} (h : (files.put loc node).node? other ≠ files.node? other) :
    other = loc :=
  Decidable.byContradiction fun hne => h (node?_put_of_ne files node hne)

theorem onlyFilesWritten_put
    (hroot : loc ≠ .root) (hfile : ∀ node, files.node? loc = some node → node.isFile = true)
    (content : ByteArray) (executable : Bool) :
    files.OnlyFilesWritten (files.put loc (.file content executable)) := by
  intro other hchanged
  obtain rfl := eq_of_node?_put_ne hchanged
  exact ⟨hfile, _, node?_put_self files _ hroot, rfl⟩

namespace OnlyFilesWritten

theorem node?_eq
    (h : files.OnlyFilesWritten others) {node : Node} (hnode : files.node? loc = some node)
    (hfile : node.isFile = false) :
    others.node? loc = some node := by
  by_cases heq : others.node? loc = files.node? loc
  · exact heq.trans hnode
  · rw [(h loc heq).1 node hnode] at hfile
    cases hfile

theorem exists_file
    (h : files.OnlyFilesWritten others) {node : Node} (hnode : files.node? loc = some node)
    (hfile : node.isFile = true) :
    ∃ other, others.node? loc = some other ∧ other.isFile = true := by
  by_cases heq : others.node? loc = files.node? loc
  · exact ⟨node, heq.trans hnode, hfile⟩
  · exact (h loc heq).2

/-- Names lead where they led, also if nothing stood there and now a file does. -/
theorem leads_location
    (h : files.OnlyFilesWritten others) {links : Nat} {names : List String} {place : Place}
    (hleads : files.Leads links here names place)
    (hfilled : ∀ dir name, place = .vacancy dir name →
      ∃ node, others.node? (dir.child name) = some node ∧ node.isFile = true) :
    others.Leads links here names (.node place.location) := by
  induction hleads with
  | stop links here => exact .stop links here
  | stay directory further ih => exact .stay (h.node?_eq directory rfl) (ih hfilled)
  | up directory further ih => exact .up (h.node?_eq directory rfl) (ih hfilled)
  | link directory entry stands further ih =>
      exact .link (h.node?_eq directory rfl) entry (h.node?_eq stands rfl) (ih hfilled)
  | @down _ _ _ _ node _ directory entry stands noLink further ih =>
      -- A file on the way may hold something else now, but it is no link.
      by_cases hfile : node.isFile = true
      · obtain ⟨other, hother, hotherFile⟩ := h.exists_file stands hfile
        refine .down (h.node?_eq directory rfl) entry hother ?_ (ih hfilled)
        rintro target rfl
        cases hotherFile
      · exact .down (h.node?_eq directory rfl) entry
          (h.node?_eq stands (Bool.eq_false_iff.mpr hfile)) noLink (ih hfilled)
  | @vacancy links here name directory entry free =>
      obtain ⟨node, hnode, hfile⟩ := hfilled here name rfl
      refine .down (h.node?_eq directory rfl) entry hnode ?_ (.stop links _)
      rintro target rfl
      cases hfile

theorem leads
    (h : files.OnlyFilesWritten others) {links : Nat} {names : List String}
    (hleads : files.Leads links here names (.node loc)) :
    others.Leads links here names (.node loc) :=
  h.leads_location hleads nofun

theorem locate_eq
    (h : files.OnlyFilesWritten others) {p : Path} (hlocate : files.locate here p = .ok loc) :
    others.locate here p = .ok loc := by
  obtain ⟨first, hstart, hleads⟩ := locate_eq_ok_iff.mp hlocate
  exact locate_eq_ok_iff.mpr ⟨first, hstart, h.leads hleads⟩

theorem fileAt?_eq
    (h : files.OnlyFilesWritten others) {p : Path} (hfile : files.fileAt? here p = some loc) :
    others.fileAt? here p = some loc := by
  obtain ⟨hlocate, node, hnode, hnodeFile⟩ := fileAt?_eq_some_iff.mp hfile
  exact fileAt?_eq_some_iff.mpr ⟨h.locate_eq hlocate, h.exists_file hnode hnodeFile⟩

end OnlyFilesWritten

end FileSystem

namespace Host

variable {before after : Host} {p q : Path} {loc : Location}

/-- Nothing on the host has changed but the file that a path leads to, which may be new. -/
structure WritesOnly (p : Path) (before after : Host) : Prop where
  directory : after.directory = before.directory
  written : before.files.OnlyFilesWritten after.files
  only : ∀ loc, after.files.node? loc ≠ before.files.node? loc →
    ∃ place, before.files.place before.directory p = .ok place ∧ place.location = loc

/-- Where a path leads, content may be stored, if there is a file or nothing. -/
theorem WritesOnly.put
    {host : Host} {place : Place} (content : ByteArray)
    (hplace : host.files.place host.directory p = .ok place) (hroot : place.location ≠ .root)
    (hfile : ∀ node, host.files.node? place.location = some node → node.isFile = true) :
    WritesOnly p host
      { host with files := host.files.put place.location (.file content false) } := by
  refine ⟨rfl, FileSystem.onlyFilesWritten_put hroot hfile content false, ?_⟩
  intro loc hchanged
  exact ⟨place, hplace, (FileSystem.eq_of_node?_put_ne hchanged).symm⟩

/-- A file stays as it was, unless the path that was written leads to it. -/
theorem WritesOnly.node?_eq
    (h : WritesOnly p before after) {node : Node} (hnode : before.files.node? loc = some node)
    (hfile : node.isFile = true) (hne : after.files.fileAt? after.directory p ≠ some loc) :
    after.files.node? loc = before.files.node? loc := by
  by_cases hsame : after.files.node? loc = before.files.node? loc
  · exact hsame
  · obtain ⟨place, hplace, hloc⟩ := h.only loc hsame
    obtain ⟨first, hstart, hleads⟩ := FileSystem.place_eq_ok_iff.mp hplace
    cases place with
    | node found =>
        -- A path that led to the file before leads there still.
        have hlocate : before.files.locate before.directory p = .ok loc :=
          FileSystem.locate_eq_ok_iff.mpr ⟨first, hstart, hloc ▸ hleads⟩
        have hkept := h.written.fileAt?_eq
          (FileSystem.fileAt?_eq_some_iff.mpr ⟨hlocate, node, hnode, hfile⟩)
        rw [← h.directory] at hkept
        exact absurd hkept hne
    | vacancy dir name =>
        have hfree := hleads.node?_eq_none
        rw [show dir.child name = loc from hloc, hnode] at hfree
        cases hfree

theorem WritesOnly.read_eq
    (h : WritesOnly p before after) (hfile : before.files.fileAt? before.directory q = some loc)
    (hne : after.files.fileAt? after.directory p ≠ some loc) :
    after.files.read after.directory q = before.files.read before.directory q := by
  obtain ⟨hlocate, node, hnode, hnodeFile⟩ := FileSystem.fileAt?_eq_some_iff.mp hfile
  have hafter := h.written.locate_eq hlocate
  unfold FileSystem.read
  rw [h.directory, hafter, hlocate]
  dsimp only
  unfold FileSystem.contentAt
  rw [h.node?_eq hnode hnodeFile hne]

end Host

end CrossGen
