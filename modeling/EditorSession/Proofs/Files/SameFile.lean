import EditorSession.Path

/-! Seen from one directory, `Path.sameFile` is an equivalence of paths.

It compares what `Path.absolute?` gives: the absolute form of a path, which the empty path has not.
For this the empty path has to be the only one without components. The absolute form of any other
path is that of the path joined to the directory (`Path.absolute_eq_components_join`), so a relative
path is the same file as what it is joined to, and absolute paths are compared as they are. -/

namespace EditorSession
namespace Path

/-- The absolute form of a path, seen from the directory `cwd`. -/
def absolute? (cwd p : Path) : Option (List Component) :=
  if p.bytes = [] then none else some (p.absolute cwd)

theorem pieces_of_ne_slash {b : UInt8} (bs : List UInt8) (h : b ≠ slash) :
    ∃ piece rest, pieces ⟨b :: bs⟩ = (b :: piece) :: rest := by
  obtain ⟨piece, rest, hs⟩ := List.exists_cons_of_ne_nil (List.splitOn_ne_nil slash bs)
  refine ⟨piece, rest, ?_⟩
  rw [pieces, List.splitOn_cons_eq_if_modifyHead, if_neg (by simpa using h), hs]
  rfl

/-- Only the empty path has no components. -/
theorem components_eq_nil_iff {p : Path} : p.components = [] ↔ p.bytes = [] := by
  obtain ⟨bytes⟩ := p
  cases bytes with
  | nil => simp [components, isAbsolute, pieces, Component.ofPiece?]
  | cons b bs =>
    refine ⟨fun h => ?_, fun h => nomatch h⟩
    by_cases hb : b = slash
    · simp [components, isAbsolute, hb] at h
    -- the first piece is not empty, so it stands for a component or is the dot at the start
    obtain ⟨piece, rest, hs⟩ := pieces_of_ne_slash bs hb
    by_cases hdot : b :: piece = [dot]
    · simp [components, isAbsolute, hb, hs, hdot] at h
    · have hsome : (Component.ofPiece? (b :: piece)).isSome := by
        simp only [Component.ofPiece?, hdot, reduceCtorEq, or_self, if_false]
        split <;> rfl
      obtain ⟨c, hc⟩ := Option.isSome_iff_exists.mp hsome
      simp [components, isAbsolute, hb, hs, hdot, hc] at h

theorem sameFile_iff {cwd p q : Path} :
    sameFile cwd p q = true ↔ absolute? cwd p = absolute? cwd q := by
  have empty {p : Path} (h : p.bytes = []) : p.components = [] := components_eq_nil_iff.mpr h
  have full {p : Path} (h : p.bytes ≠ []) : p.components ≠ [] := mt components_eq_nil_iff.mp h
  unfold sameFile absolute?
  by_cases hp : p.bytes = []
  · by_cases hq : q.bytes = []
    · simp [hp, hq, empty]
    · simp [hp, hq, empty, (full hq).symm]
  · by_cases hq : q.bytes = []
    · simp [hp, hq, empty, full hp]
    · simp [hp, hq]

theorem sameFile_refl (cwd p : Path) : sameFile cwd p p = true := sameFile_iff.mpr rfl

theorem sameFile_symm {cwd p q : Path} (h : sameFile cwd p q) : sameFile cwd q p :=
  sameFile_iff.mpr (sameFile_iff.mp h).symm

theorem sameFile_trans {cwd p q r : Path} (h : sameFile cwd p q) (h' : sameFile cwd q r) :
    sameFile cwd p r :=
  sameFile_iff.mpr ((sameFile_iff.mp h).trans (sameFile_iff.mp h'))

/-! ### Absolute and relative paths -/

variable {p q base cwd : Path}

theorem ne_nil_of_isAbsolute (h : p.isAbsolute = true) : p.bytes ≠ [] := by
  intro hnil
  rw [isAbsolute, hnil] at h
  cases h

theorem components_of_isAbsolute (h : p.isAbsolute = true) :
    p.components = .root :: p.pieces.filterMap Component.ofPiece? :=
  if_pos h

theorem ofPiece?_ne_root (piece : Name) : Component.ofPiece? piece ≠ some .root := by
  unfold Component.ofPiece?
  split
  · nofun
  · split <;> nofun

theorem ofPiece?_ne_here (piece : Name) : Component.ofPiece? piece ≠ some .here := by
  unfold Component.ofPiece?
  split
  · nofun
  · split <;> nofun

theorem root_mem_components_iff : .root ∈ p.components ↔ p.isAbsolute = true := by
  unfold components
  split
  · next h => simp [h]
  · next h =>
    refine iff_of_false (fun hmem => ?_) h
    rcases List.mem_append.mp hmem with hmem | hmem
    · split at hmem
      · cases List.mem_singleton.mp hmem
      · cases hmem
    · obtain ⟨piece, -, hpiece⟩ := List.mem_filterMap.mp hmem
      exact ofPiece?_ne_root piece hpiece

theorem Same.isAbsolute_eq (h : p.Same q) : p.isAbsolute = q.isAbsolute := by
  rw [Bool.eq_iff_iff, ← root_mem_components_iff, ← root_mem_components_iff, h]

/-- A dot at the start is all that a relative path has beside its pieces. -/
theorem filter_components_of_relative (h : p.isAbsolute = false) :
    p.components.filter (· ≠ .here) = p.pieces.filterMap Component.ofPiece? := by
  have hpieces : (p.pieces.filterMap Component.ofPiece?).filter (· ≠ .here) =
      p.pieces.filterMap Component.ofPiece? := by
    refine List.filter_eq_self.mpr fun c hc => ?_
    obtain ⟨piece, -, hpiece⟩ := List.mem_filterMap.mp hc
    refine decide_eq_true ?_
    rintro rfl
    exact ofPiece?_ne_here piece hpiece
  have hstart : (if p.pieces.head? = some [dot] then [Component.here] else []).filter (· ≠ .here) =
      [] := by
    split <;> rfl
  rw [components, if_neg (Bool.eq_false_iff.mp h), List.filter_append, hstart, hpieces,
    List.nil_append]

theorem filterMap_splitOn_append (a b : List UInt8) :
    ((a ++ slash :: b).splitOn slash).filterMap Component.ofPiece? =
      (a.splitOn slash).filterMap Component.ofPiece? ++
        (b.splitOn slash).filterMap Component.ofPiece? := by
  rw [List.splitOn_append_cons_self, List.filterMap_append]

theorem isAbsolute_append (hb : base.isAbsolute = true) (rest : List UInt8) :
    isAbsolute ⟨base.bytes ++ rest⟩ = true := by
  obtain ⟨_ | ⟨b, bs⟩⟩ := base
  · cases hb
  · exact hb

/-- Joined to an absolute path, a relative one adds its components, less the dot at its start. -/
theorem components_join (hb : base.isAbsolute = true) (hp : p.isAbsolute = false) :
    (base.join p).components = base.components ++ p.components.filter (· ≠ .here) := by
  rw [filter_components_of_relative hp, components_of_isAbsolute hb, List.cons_append, join,
    if_neg (Bool.eq_false_iff.mp hp)]
  by_cases hlast : base.bytes = [] ∨ base.bytes.getLast? = some slash
  · -- the slash at the end of the directory separates, and the empty piece behind it counts nothing
    obtain ⟨start, hstart⟩ := List.getLast?_eq_some_iff.mp (hlast.resolve_left (ne_nil_of_isAbsolute hb))
    have hempty : ([].splitOn slash).filterMap Component.ofPiece? = [] := rfl
    rw [if_pos hlast, components_of_isAbsolute (isAbsolute_append hb _)]
    simp only [pieces, hstart, List.append_assoc, List.singleton_append]
    rw [filterMap_splitOn_append, filterMap_splitOn_append, hempty, List.append_nil]
  · rw [if_neg hlast, components_of_isAbsolute (isAbsolute_append hb _)]
    simp only [pieces, filterMap_splitOn_append]

/-- The absolute form of a path has the components of the path joined to the directory. -/
theorem absolute_eq_components_join (hcwd : cwd.isAbsolute = true) (p : Path) :
    p.absolute cwd = (cwd.join p).components := by
  cases hp : p.isAbsolute with
  | true => rw [absolute, join, if_pos hp, if_pos hp]
  | false => rw [absolute, hp, if_neg Bool.false_ne_true, components_join hcwd hp]

theorem sameFile_of_same (h : p.Same q) : sameFile cwd p q = true := by
  have hbytes : p.bytes = [] ↔ q.bytes = [] := by
    rw [← components_eq_nil_iff, ← components_eq_nil_iff, h]
  rw [sameFile_iff]
  unfold absolute? absolute
  rw [h.isAbsolute_eq, h]
  simp only [hbytes]

theorem sameFile_iff_join_same (hcwd : cwd.isAbsolute = true) (hp : p.bytes ≠ [])
    (hq : q.bytes ≠ []) : sameFile cwd p q = true ↔ (cwd.join p).Same (cwd.join q) := by
  rw [sameFile_iff, absolute?, absolute?, if_neg hp, if_neg hq, Option.some.injEq,
    absolute_eq_components_join hcwd, absolute_eq_components_join hcwd]
  rfl

theorem sameFile_empty_iff : sameFile cwd ⟨[]⟩ p = true ↔ p.bytes = [] := by
  rw [sameFile_iff, absolute?, if_pos rfl, absolute?]
  split <;> simp [*]

/-- Seen from an absolute directory, to be the same file is an equivalence of all paths. Equal paths
are the same file, a relative path is the same as what it is joined to the directory, and absolute
paths are the same only if they are equal. The empty path is the same as no other. -/
theorem sameFile_equivalence (hcwd : cwd.isAbsolute = true) :
    Equivalence (fun p q => sameFile cwd p q = true) ∧
    (∀ p q, p.Same q → sameFile cwd p q = true) ∧
    (∀ p, p.bytes ≠ [] → p.isAbsolute = false → sameFile cwd p (cwd.join p) = true) ∧
    (∀ p q, p.isAbsolute = true → q.isAbsolute = true →
      (sameFile cwd p q = true ↔ p.Same q)) ∧
    ∀ p, sameFile cwd ⟨[]⟩ p = true ↔ p.bytes = [] := by
  have hjoin {p : Path} (hp : p.isAbsolute = true) : cwd.join p = p := if_pos hp
  refine ⟨⟨sameFile_refl cwd, sameFile_symm, sameFile_trans⟩, fun p q => sameFile_of_same,
    fun p hp hrelative => ?_, fun p q hp hq => ?_, fun p => sameFile_empty_iff⟩
  · have hroot : (cwd.join p).isAbsolute = true := by
      rw [← root_mem_components_iff, components_join hcwd hrelative]
      exact List.mem_append_left _ (root_mem_components_iff.mpr hcwd)
    rw [sameFile_iff_join_same hcwd hp (ne_nil_of_isAbsolute hroot), hjoin hroot]
    exact Same.refl _
  · rw [sameFile_iff_join_same hcwd (ne_nil_of_isAbsolute hp) (ne_nil_of_isAbsolute hq), hjoin hp,
      hjoin hq]

/-- A relative path with dots, repeated slashes and a slash at the end. -/
theorem sameFile_equivalence_spellings :
    let cwd := Path.ofString "/w/"
    let p := Path.ofString "./src//.././A.kt/"
    cwd.isAbsolute = true ∧ Equivalence (fun p q => sameFile cwd p q = true) ∧
      sameFile cwd p (cwd.join p) = true ∧ (cwd.join p).Same (Path.ofString "//w/src/../A.kt") ∧
      sameFile cwd (cwd.join p) (Path.ofString "//w/src/../A.kt") = true := by
  intro cwd p
  have hcwd : cwd.isAbsolute = true := by decide +kernel
  have hsame : (cwd.join p).Same (Path.ofString "//w/src/../A.kt") := by decide +kernel
  obtain ⟨hequivalence, hof, hrelative, -⟩ := sameFile_equivalence hcwd
  exact ⟨hcwd, hequivalence, hrelative p (by decide +kernel) (by decide +kernel), hsame,
    hof _ _ hsame⟩

end Path
end EditorSession
