import CrossGen.Host.Walk

/-!
# Layouts of file systems

The layout of a file system is what paths lead to, without what files hold.  Walks depend on the
kinds of the nodes and on the targets of links, so that two file systems that differ in nothing but
the contents of files have the same layout.
-/

namespace CrossGen

/-- Every path leads to the same node in both file systems, or fails to for the same reason, and to
a regular file in both or in neither. -/
structure SameLayout (here : Location) (files others : FileSystem) : Prop where
  isFile : ∀ p, files.isFile here p = others.isFile here p
  locate : ∀ p, files.locate here p = others.locate here p

namespace FileSystem

theorem fileAt?_eq_if (files : FileSystem) (here : Location) (p : Path) :
    files.fileAt? here p =
      if files.isFile here p = true then (files.locate here p).toOption else none := by
  unfold isFile fileAt?
  cases files.locate here p with
  | error e => rfl
  | ok loc =>
      by_cases hfile : (files.node? loc).any Node.isFile = true
      · simp [hfile, Except.toOption]
      · simp [hfile]

end FileSystem

theorem SameLayout.fileAt?_eq
    {here : Location} {files others : FileSystem} (h : SameLayout here files others) (p : Path) :
    files.fileAt? here p = others.fileAt? here p := by
  rw [FileSystem.fileAt?_eq_if, FileSystem.fileAt?_eq_if, h.isFile, h.locate]

theorem Node.isFile_iff {node : Node} :
    node.isFile = true ↔
      (∃ content executable, node = .file content executable) ∨ ∃ cause, node = .sealed cause := by
  cases node <;> simp [Node.isFile]

/-- Everywhere stands the same in both file systems, or a regular file in both. -/
def FileSystem.SameKinds (files others : FileSystem) : Prop :=
  ∀ loc, files.node? loc = others.node? loc ∨
    ∃ node other, files.node? loc = some node ∧ others.node? loc = some other ∧
      node.isFile = true ∧ other.isFile = true

namespace FileSystem

theorem any_isFile_eq
    {files others : FileSystem} (h : files.SameKinds others) (loc : Location) :
    (files.node? loc).any Node.isFile = (others.node? loc).any Node.isFile := by
  rcases h loc with hsame | ⟨node, other, hnode, hother, hfile, hfile'⟩
  · rw [hsame]
  · rw [hnode, hother, Option.any_some, Option.any_some, hfile, hfile']

/-- A file is passed on a walk as any other file is. -/
theorem walkWith_eq_of_sameKinds
    {files others : FileSystem} (h : files.SameKinds others)
    (follow : Location → List String → Except IoError Place)
    (here : Location) (names : List String) :
    files.walkWith follow here names = others.walkWith follow here names := by
  induction names generalizing here with
  | nil => rfl
  | cons name rest ih =>
      unfold walkWith
      rcases h here with hsame | ⟨node, other, hnode, hother, hfile, hfile'⟩
      · rw [hsame, ih, ih]
        rcases h (here.child name) with hsame | ⟨node, other, hnode, hother, hfile, hfile'⟩
        · rw [hsame, ih]
        · rw [hnode, hother, ih]
          rcases Node.isFile_iff.mp hfile with ⟨_, _, rfl⟩ | ⟨_, rfl⟩
          · rcases Node.isFile_iff.mp hfile' with ⟨_, _, rfl⟩ | ⟨_, rfl⟩ <;> rfl
          · rcases Node.isFile_iff.mp hfile' with ⟨_, _, rfl⟩ | ⟨_, rfl⟩ <;> rfl
      · rw [hnode, hother]
        rcases Node.isFile_iff.mp hfile with ⟨_, _, rfl⟩ | ⟨_, rfl⟩
        · rcases Node.isFile_iff.mp hfile' with ⟨_, _, rfl⟩ | ⟨_, rfl⟩ <;> rfl
        · rcases Node.isFile_iff.mp hfile' with ⟨_, _, rfl⟩ | ⟨_, rfl⟩ <;> rfl

theorem walk_eq_of_sameKinds
    {files others : FileSystem} (h : files.SameKinds others)
    (links : Nat) (here : Location) (names : List String) :
    files.walk links here names = others.walk links here names := by
  induction links generalizing here names with
  | zero => exact walkWith_eq_of_sameKinds h _ here names
  | succ links ih =>
      have hfollow : files.walk links = others.walk links := by
        funext here names
        exact ih here names
      rw [walk, walk, hfollow]
      exact walkWith_eq_of_sameKinds h _ here names

/-- What files hold does not matter for where paths lead. -/
theorem sameLayout_of_sameKinds
    {files others : FileSystem} (h : files.SameKinds others) (here : Location) :
    SameLayout here files others := by
  have hlocate : ∀ p, files.locate here p = others.locate here p := by
    intro p
    unfold locate
    cases start here p with
    | error e => rfl
    | ok from' =>
        dsimp only
        rw [walk_eq_of_sameKinds h]
  refine ⟨fun p => ?_, hlocate⟩
  unfold isFile fileAt?
  rw [hlocate]
  cases others.locate here p with
  | error e => rfl
  | ok loc =>
      dsimp only
      rw [any_isFile_eq h]

theorem sameKinds_put
    {files : FileSystem} {loc : Location} {old new : Node}
    (hold : files.node? loc = some old) (holdFile : old.isFile = true)
    (hnewFile : new.isFile = true) :
    files.SameKinds (files.put loc new) := by
  have hroot : loc ≠ .root := by
    rintro rfl
    have hdirectory : Node.directory = old := by simpa [node?] using hold
    rw [← hdirectory] at holdFile
    cases holdFile
  intro other
  by_cases hsame : other = loc
  · subst hsame
    exact Or.inr ⟨old, new, hold, node?_put_self files new hroot, holdFile, hnewFile⟩
  · exact Or.inl (node?_put_of_ne files new hsame).symm

end FileSystem

end CrossGen
