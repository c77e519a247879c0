import EditorSession.Path

/-! Maps from files to values, in the order in which the files were first added.

Two spellings of one path are the same key, and the first one is kept. What can be seen of a map is
its keys in order and the value under each: `keys_alter` and the two lemmas on `find?` say what a
change does to them. -/

namespace EditorSession

structure FileMap (α : Type) where
  entries : List (Path × α) := []
deriving Repr, Inhabited

namespace FileMap

variable {α : Type}

def find? (m : FileMap α) (file : Path) : Option α :=
  (m.entries.find? fun e => e.1.Same file).map (·.2)

def contains (m : FileMap α) (file : Path) : Bool := m.entries.any fun e => e.1.Same file

/-- The files in the spelling and the order in which they were first added. -/
def keys (m : FileMap α) : List Path := m.entries.map Prod.fst

/-- The map with the value of `file` changed by `f`, which is given the value so far. A new file
goes to the end. -/
def alter (m : FileMap α) (file : Path) (f : Option α → α) : FileMap α :=
  if m.contains file then
    ⟨m.entries.map fun e => if e.1.Same file then (e.1, f (some e.2)) else e⟩
  else ⟨m.entries ++ [(file, f none)]⟩

def insert (m : FileMap α) (file : Path) (value : α) : FileMap α := m.alter file fun _ => value

def size (m : FileMap α) : Nat := m.entries.length

def isEmpty (m : FileMap α) : Bool := m.entries.isEmpty

theorem contains_iff {m : FileMap α} {file : Path} :
    m.contains file = true ↔ ∃ key ∈ m.keys, key.Same file := by
  simp [contains, keys, List.any_eq_true]

theorem length_keys (m : FileMap α) : m.keys.length = m.size := by simp [keys, size]

theorem keys_alter (m : FileMap α) (file : Path) (f : Option α → α) :
    (m.alter file f).keys = if m.contains file then m.keys else m.keys ++ [file] := by
  unfold alter
  split
  · simp only [keys, List.map_map]
    refine List.map_congr_left fun e _ => ?_
    simp only [Function.comp_apply]
    split <;> rfl
  · simp [keys]

/-- A change is seen under every spelling of the file. -/
theorem find?_alter_of_same (m : FileMap α) {file other : Path} (f : Option α → α)
    (h : file.Same other) : (m.alter file f).find? other = some (f (m.find? other)) := by
  have hkey := h.symm.congr_right
  obtain ⟨entries⟩ := m
  unfold alter
  split
  · next hc =>
    simp only [find?, hkey]
    simp only [contains] at hc
    induction entries with
    | nil => cases hc
    | cons e es ih =>
      by_cases he : e.1.Same file
      · simp [he]
      · simp only [List.any_cons, he, decide_false, Bool.false_or] at hc
        simpa [he] using ih hc
  · next hc =>
    have hnone : (entries.find? fun e => e.1.Same file) = none := by
      simpa [contains, List.find?_eq_none] using hc
    simp [find?, hkey, List.find?_append, hnone, Path.Same.refl]

/-- A change is not seen under another file. -/
theorem find?_alter_of_not_same (m : FileMap α) {file other : Path} (f : Option α → α)
    (h : ¬file.Same other) : (m.alter file f).find? other = m.find? other := by
  unfold alter
  split
  · simp only [find?]
    induction m.entries with
    | nil => rfl
    | cons e es ih =>
      by_cases he : e.1.Same file
      · have ho : ¬e.1.Same other := fun ho => h (he.symm.trans ho)
        simpa [he, ho] using ih
      · by_cases ho : e.1.Same other
        · simp [he, ho]
        · simpa [he, ho] using ih
  · simp [find?, List.find?_append, h]

end FileMap

end EditorSession
