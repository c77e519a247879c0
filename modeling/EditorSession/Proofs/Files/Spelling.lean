import EditorSession.FileMap
import Mathlib.Data.List.Basic
import Mathlib.Data.List.Induction

/-! Maps of files that are built one change at a time, in terms of the changes.

A list of paths may spell one file in several ways. `Path.firstSpellings` keeps the first spelling
of every file. A map that starts empty has the first spellings of the changed files as its keys
(`FileMap.keys_foldl_alter`), and what it has for a file is what the changes of that file alone make
(`FileMap.find?_foldl_alter`). No two keys are then the same file, and for such maps the entries are
read off the keys and `find?`. -/

namespace EditorSession

namespace Path

/-- The first spelling of every file, in the order of the list. -/
def firstSpellings (files : List Path) : List Path := files.eraseDupsBy fun p q => p.Same q

/-- No two paths of a list are the same file. -/
def Distinct (files : List Path) : Prop := files.Pairwise fun p q => ¬p.Same q

@[simp] theorem firstSpellings_nil : firstSpellings [] = [] := rfl

theorem firstSpellings_cons (p : Path) (ps : List Path) :
    firstSpellings (p :: ps) = p :: firstSpellings (ps.filter fun q => ¬q.Same p) := by
  simp [firstSpellings, List.eraseDupsBy_cons]

theorem mem_of_mem_firstSpellings {p : Path} :
    ∀ {files : List Path}, p ∈ firstSpellings files → p ∈ files
  | [], h => h
  | q :: qs, h => by
    rw [firstSpellings_cons] at h
    rcases List.mem_cons.mp h with rfl | h
    · exact List.mem_cons_self
    · exact List.mem_cons_of_mem _ (List.mem_filter.mp (mem_of_mem_firstSpellings h)).1
termination_by files => files.length
decreasing_by simpa [Nat.lt_succ_iff] using List.length_filter_le _ qs

/-- Every file of a list is kept, in its first spelling. -/
theorem exists_mem_firstSpellings {file : Path} :
    ∀ {files : List Path}, (∃ p ∈ firstSpellings files, p.Same file) ↔ ∃ p ∈ files, p.Same file
  | [] => Iff.rfl
  | q :: qs => by
    refine ⟨fun ⟨p, hp, hs⟩ => ⟨p, mem_of_mem_firstSpellings hp, hs⟩, fun ⟨p, hp, hs⟩ => ?_⟩
    rw [firstSpellings_cons]
    by_cases hq : q.Same file
    · exact ⟨q, List.mem_cons_self, hq⟩
    have hpq : ¬p.Same q := fun h => hq (h.symm.trans hs)
    have hp' : p ∈ qs := by
      rcases List.mem_cons.mp hp with rfl | hp
      · exact (hq hs).elim
      · exact hp
    have hmem : p ∈ qs.filter fun p => ¬p.Same q := List.mem_filter.mpr ⟨hp', by simpa using hpq⟩
    obtain ⟨r, hr, hrs⟩ := exists_mem_firstSpellings.mpr ⟨p, hmem, hs⟩
    exact ⟨r, List.mem_cons_of_mem _ hr, hrs⟩
termination_by files => files.length
decreasing_by simpa [Nat.lt_succ_iff] using List.length_filter_le _ qs

theorem distinct_firstSpellings : ∀ files : List Path, Distinct (firstSpellings files)
  | [] => .nil
  | p :: ps => by
    rw [firstSpellings_cons]
    refine .cons (fun q hq hs => ?_) (distinct_firstSpellings _)
    have hq := (List.mem_filter.mp (mem_of_mem_firstSpellings hq)).2
    exact of_decide_eq_true hq hs.symm
termination_by files => files.length
decreasing_by simpa [Nat.lt_succ_iff] using List.length_filter_le _ ps

/-- A list of different files has at most one path of a file. -/
theorem Distinct.filter_same {files : List Path} (h : Distinct files) {p file : Path}
    (hp : p ∈ files) (hs : p.Same file) : files.filter (fun q => q.Same file) = [p] := by
  induction files with
  | nil => cases hp
  | cons q qs ih =>
    obtain ⟨hq, hqs⟩ := List.pairwise_cons.mp h
    rcases List.mem_cons.mp hp with rfl | hp
    · have hnone : qs.filter (fun q => q.Same file) = [] :=
        List.filter_eq_nil_iff.mpr fun r hr hrs =>
          hq r hr (hs.trans (of_decide_eq_true hrs).symm)
      rw [List.filter_cons_of_pos (by simpa using hs), hnone]
    · have hne : ¬q.Same file := fun hqf => hq p hp (hqf.trans hs.symm)
      rw [List.filter_cons_of_neg (by simpa using hne), ih hqs hp]

/-- A path at the end of a list counts only if its file is new. -/
theorem firstSpellings_concat (file : Path) :
    ∀ files : List Path, firstSpellings (files ++ [file]) =
      if ∃ p ∈ files, p.Same file then firstSpellings files else firstSpellings files ++ [file]
  | [] => by simp [firstSpellings_cons]
  | p :: ps => by
    have ih := firstSpellings_concat file (ps.filter fun q => ¬q.Same p)
    rw [List.cons_append, firstSpellings_cons, firstSpellings_cons, List.filter_append]
    by_cases hp : p.Same file
    · rw [if_pos ⟨p, List.mem_cons_self, hp⟩]
      simp [hp.symm]
    have hf : ¬file.Same p := fun h => hp h.symm
    have hex : (∃ q ∈ ps.filter fun q => ¬q.Same p, q.Same file) ↔
        ∃ q ∈ p :: ps, q.Same file := by
      constructor
      · rintro ⟨q, hq, hs⟩
        exact ⟨q, List.mem_cons_of_mem _ (List.mem_filter.mp hq).1, hs⟩
      · rintro ⟨q, hq, hs⟩
        rcases List.mem_cons.mp hq with rfl | hq
        · exact (hp hs).elim
        · have hqp : ¬q.Same p := fun h => hp (h.symm.trans hs)
          exact ⟨q, List.mem_filter.mpr ⟨hq, by simpa using hqp⟩, hs⟩
    have hlast : ([file].filter fun q => decide ¬q.Same p) = [file] := by simp [hf]
    rw [hlast, ih]
    by_cases h : ∃ q ∈ p :: ps, q.Same file
    · rw [if_pos h, if_pos (hex.mpr h)]
    · rw [if_neg h, if_neg (mt hex.mp h), List.cons_append]
termination_by files => files.length
decreasing_by simpa [Nat.lt_succ_iff] using List.length_filter_le _ ps

end Path

namespace FileMap

variable {α β : Type}

/-! ### Maps built by changes -/

section
variable (key : β → Path) (f : β → Option α → α)

theorem find?_foldl_alter (file : Path) (xs : List β) (m : FileMap α) :
    (xs.foldl (fun m x => m.alter (key x) (f x)) m).find? file =
      (xs.filter fun x => (key x).Same file).foldl (fun value x => some (f x value))
        (m.find? file) := by
  induction xs generalizing m with
  | nil => rfl
  | cons x xs ih =>
    rw [List.foldl_cons, ih]
    by_cases h : (key x).Same file
    · rw [find?_alter_of_same m (f x) h, List.filter_cons_of_pos (by simpa using h),
        List.foldl_cons]
    · rw [find?_alter_of_not_same m (f x) h, List.filter_cons_of_neg (by simpa using h)]

theorem keys_foldl_alter (xs : List β) :
    (xs.foldl (fun (m : FileMap α) x => m.alter (key x) (f x)) {}).keys =
      Path.firstSpellings (xs.map key) := by
  induction xs using List.reverseRecOn with
  | nil => rfl
  | append_singleton xs x ih =>
    rw [List.foldl_append, List.foldl_cons, List.foldl_nil, keys_alter, List.map_append,
      List.map_singleton, Path.firstSpellings_concat]
    have hc : (xs.foldl (fun (m : FileMap α) x => m.alter (key x) (f x)) {}).contains (key x) =
        true ↔ ∃ p ∈ xs.map key, p.Same (key x) := by
      rw [contains_iff, ih, Path.exists_mem_firstSpellings]
    by_cases h : ∃ p ∈ xs.map key, p.Same (key x)
    · rw [if_pos (hc.mpr h), if_pos h, ih]
    · rw [if_neg (mt hc.mp h), if_neg h, ih]

end

/-! ### Changes of one map -/

section
variable {m : FileMap α} {file other : Path} {f g : Option α → α}

theorem alter_of_contains (h : m.contains file = true) :
    m.alter file f = ⟨m.entries.map fun e => if e.1.Same file then (e.1, f (some e.2)) else e⟩ :=
  if_pos h

theorem alter_of_not_contains (h : ¬m.contains file = true) :
    m.alter file f = ⟨m.entries ++ [(file, f none)]⟩ :=
  if_neg h

theorem contains_congr (h : file.Same other) : m.contains file = m.contains other := by
  simp only [contains, h.congr_right]

theorem contains_alter :
    (m.alter file f).contains other = true ↔ m.contains other = true ∨ file.Same other := by
  by_cases h : m.contains file = true
  · obtain ⟨key, hkey, hs⟩ := contains_iff.mp h
    rw [contains_iff, keys_alter, if_pos h, contains_iff]
    exact ⟨.inl, fun hor => hor.elim id fun ho => ⟨key, hkey, hs.trans ho⟩⟩
  · rw [contains_iff, keys_alter, if_neg h, contains_iff]
    simp [or_and_right, exists_or]

/-- A file that the map has is changed alike under any of its spellings. -/
theorem alter_congr (hm : m.contains file = true) (h : file.Same other) :
    m.alter file f = m.alter other f := by
  rw [alter_of_contains hm, alter_of_contains ((contains_congr h).symm.trans hm)]
  simp only [h.congr_right]

/-- Two changes of one file are one change. -/
theorem alter_alter (m : FileMap α) (file : Path) (f g : Option α → α) :
    (m.alter file f).alter file g = m.alter file fun value => g (some (f value)) := by
  rw [alter_of_contains (contains_alter.mpr (.inr (Path.Same.refl file)))]
  by_cases h : m.contains file = true
  · rw [alter_of_contains h, alter_of_contains h, FileMap.mk.injEq, List.map_map]
    refine List.map_congr_left fun e _ => ?_
    by_cases he : e.1.Same file <;> simp [he]
  · have hne : ∀ e ∈ m.entries, ¬e.1.Same file := by simpa [contains] using h
    have hsame : m.entries.map (fun e => if e.1.Same file then (e.1, g (some e.2)) else e) =
        m.entries :=
      (List.map_congr_left fun e he => if_neg (hne e he)).trans (List.map_id' m.entries)
    rw [alter_of_not_contains h, alter_of_not_contains h]
    simp [hsame, Path.Same.refl]

/-- A file that the map has can be changed before or after another one. -/
theorem alter_comm (hm : m.contains file = true) (h : ¬file.Same other) :
    (m.alter file f).alter other g = (m.alter other g).alter file f := by
  have hm' : (m.alter other g).contains file = true := contains_alter.mpr (.inl hm)
  rw [alter_of_contains hm']
  by_cases ho : m.contains other = true
  · rw [alter_of_contains (contains_alter.mpr (.inl ho)), alter_of_contains hm,
      alter_of_contains ho, FileMap.mk.injEq, List.map_map, List.map_map]
    refine List.map_congr_left fun e _ => ?_
    by_cases he : e.1.Same file
    · have heo : ¬e.1.Same other := fun heo => h (he.symm.trans heo)
      simp [he, heo]
    · by_cases heo : e.1.Same other <;> simp [he, heo]
  · have ho' : ¬(m.alter file f).contains other = true := by simp [contains_alter, ho, h]
    have hof : ¬other.Same file := fun hof => h hof.symm
    rw [alter_of_not_contains ho', alter_of_not_contains ho, alter_of_contains hm]
    simp [hof]

/-- All that a map has for a file is what was inserted. -/
theorem value_of_mem_insert {value : α} {e : Path × α} (he : e ∈ (m.insert file value).entries)
    (hs : e.1.Same file) : e.2 = value := by
  unfold insert at he
  by_cases h : m.contains file = true
  · rw [alter_of_contains h] at he
    obtain ⟨e', -, rfl⟩ := List.mem_map.mp he
    by_cases hs' : e'.1.Same file
    · rw [if_pos hs']
    · rw [if_neg hs'] at hs
      exact absurd hs hs'
  · rw [alter_of_not_contains h] at he
    rcases List.mem_append.mp he with he | he
    · exact absurd (contains_iff.mpr ⟨e.1, List.mem_map_of_mem he, hs⟩) h
    · rw [List.mem_singleton.mp he]

/-- A change leaves the entries of other files as they are, in their places. -/
theorem filter_entries_alter : ((m.alter file f).entries.filter fun e => ¬e.1.Same file) =
    m.entries.filter fun e => ¬e.1.Same file := by
  by_cases h : m.contains file = true
  · rw [alter_of_contains h]
    induction m.entries with
    | nil => rfl
    | cons e es ih => by_cases he : e.1.Same file <;> simpa [he] using ih
  · rw [alter_of_not_contains h]
    simp [Path.Same.refl]

end

/-! ### Entries -/

/-- The map has one entry for each of its files. -/
def Distinct (m : FileMap α) : Prop := Path.Distinct m.keys

theorem distinct_foldl_alter (key : β → Path) (f : β → Option α → α) (xs : List β) :
    (xs.foldl (fun (m : FileMap α) x => m.alter (key x) (f x)) {}).Distinct := by
  rw [Distinct, keys_foldl_alter]
  exact Path.distinct_firstSpellings _

theorem Distinct.find?_of_mem {m : FileMap α} (h : m.Distinct) {e : Path × α}
    (he : e ∈ m.entries) : m.find? e.1 = some e.2 := by
  obtain ⟨entries⟩ := m
  simp only [find?] at he ⊢
  replace h : (entries.map Prod.fst).Pairwise fun p q => ¬p.Same q := h
  induction entries with
  | nil => cases he
  | cons d ds ih =>
    obtain ⟨hd, hds⟩ := List.pairwise_cons.mp h
    rcases List.mem_cons.mp he with rfl | he
    · simp [Path.Same.refl]
    · have hde : ¬d.1.Same e.1 := hd e.1 (List.mem_map_of_mem he)
      rw [List.find?_cons_of_neg (by simpa using hde)]
      exact ih he hds

theorem Distinct.entries_eq {m : FileMap α} (h : m.Distinct) :
    m.entries = m.keys.filterMap fun key => (m.find? key).map (key, ·) := by
  have hread : ∀ e ∈ m.entries, ((m.find? e.1).map (e.1, ·)) = some e :=
    fun e he => by rw [h.find?_of_mem he, Option.map_some]
  rw [keys, List.filterMap_map]
  exact (List.filterMap_some.symm.trans (List.filterMap_congr fun e he => (hread e he).symm))

end FileMap

end EditorSession
