import EditorSession.Resolve

/-! Disks that differ in the bytes of files only.

Such disks have the same tree of directories and regular files (`Disk.SameTree`). A path finds its
way by the tree alone (`Disk.SameTree.walk_eq`), so a URL names the same file on both
(`World.resolve_of_sameTree`). To write a file that is there keeps the tree
(`Disk.sameTree_put`). -/

namespace EditorSession

/-- The node less the bytes of a file. -/
def Node.emptied : Node → Node
  | dir => dir
  | file _ => file []

namespace Disk

/-- The disks have the same directories and regular files. The bytes of files may differ. -/
def SameTree (d d' : Disk) : Prop :=
  ∀ names, (d'.find? names).map Node.emptied = (d.find? names).map Node.emptied

theorem isDir_iff {d : Disk} {names : List Name} :
    d.isDir names = true ↔ (d.find? names).map Node.emptied = some .dir := by
  unfold isDir
  rcases d.find? names with _ | _ | bytes <;> simp [Node.emptied]

theorem sameTree_put {d : Disk} {names : List Name} {old : List UInt8}
    (h : d.find? names = some (.file old)) (bytes : List UInt8) : d.SameTree (d.put names bytes) := by
  intro other
  by_cases ho : other = names
  · have hne : names ≠ [] := by
      rintro rfl
      cases h
    rw [ho, find?_put_self bytes hne, h]
    rfl
  · rw [find?_put_of_ne bytes ho]

namespace SameTree

variable {d d' : Disk}

theorem isDir_eq (h : d.SameTree d') (names : List Name) : d'.isDir names = d.isDir names := by
  rw [Bool.eq_iff_iff, isDir_iff, isDir_iff, h names]

theorem isNone_eq (h : d.SameTree d') (names : List Name) :
    (d'.find? names).isNone = (d.find? names).isNone := by
  have hsome := congrArg Option.isNone (h names)
  rwa [Option.isNone_map, Option.isNone_map] at hsome

/-- A walk looks at directories and at what there is, never at bytes. -/
theorem walk_eq (h : d.SameTree d') (pieces names : List Name) :
    d'.walk names pieces = d.walk names pieces := by
  induction pieces generalizing names with
  | nil => rfl
  | cons piece rest ih => simp only [walk, h.isDir_eq, h.isNone_eq, ih]

end SameTree
end Disk

namespace World

variable {w : World} {disk : Disk} {file : Path}

theorem locate_of_sameTree (h : w.disk.SameTree disk) (file : Path) :
    locate { w with disk } file = w.locate file := by
  unfold locate
  cases hr : w.route file with
  | error cause =>
    have hr' : route { w with disk } file = .error cause := hr
    rw [hr']
    rfl
  | ok pieces =>
    have hr' : route { w with disk } file = .ok pieces := hr
    rw [hr']
    exact h.walk_eq pieces []

theorem node_of_sameTree (h : w.disk.SameTree disk) (file : Path) :
    (node { w with disk } file).map Node.emptied = (w.node file).map Node.emptied := by
  unfold node
  rw [locate_of_sameTree h]
  cases w.locate file with
  | error cause => rfl
  | ok names =>
    have hnode := h names
    simp only [bind, Except.bind]
    revert hnode
    rcases w.disk.find? names with _ | n <;> rcases disk.find? names with _ | n' <;> simp [Except.map]

theorem pathExists_eq (w : World) (file : Path) :
    w.pathExists file = ((w.node file).map Node.emptied).isOk := by
  unfold pathExists
  cases w.node file <;> rfl

theorem isFile_iff : w.isFile file = true ↔ (w.node file).map Node.emptied = .ok (.file []) := by
  unfold isFile
  rcases w.node file with _ | _ | bytes <;> simp [Except.map, Node.emptied]

/-- What a URL names is there or not, and is a regular file or not, whatever its bytes. -/
theorem resolve_of_sameTree (h : w.disk.SameTree disk) (uri : Url) :
    resolve { w with disk } uri = w.resolve uri := by
  have hexists (file : Path) : pathExists { w with disk } file = w.pathExists file := by
    rw [pathExists_eq, pathExists_eq, node_of_sameTree h]
  have hfile (file : Path) : isFile { w with disk } file = w.isFile file := by
    rw [Bool.eq_iff_iff, isFile_iff, isFile_iff, node_of_sameTree h]
  unfold resolve
  simp only [hexists, hfile]

theorem readText_congr {w' : World} (h : w'.readBytes file = w.readBytes file) :
    w'.readText file = w.readText file := by
  unfold readText
  rw [h]

end World
end EditorSession
