import EditorSession.Proofs.Files.SameFile
import EditorSession.ShowDocument

/-! The editors of a host, and what its operations leave of them.

A host is `Host.Valid` if no two of its editors show the same file and its active editor is one of
them. In such a host the editor of a file has one place, whichever way it is looked for
(`Host.Valid.indexOf?_eq_some_iff`), a change for a file reaches the editors that show it and no
others (`Host.Valid.editors_editFile`), and every operation keeps the host valid: it edits editors
in place (`Host.editFile`, `Host.modifyEditor`), or opens one where no other shows its file. -/

namespace EditorSession

namespace Editor

@[simp] theorem file_applySelection (e : Editor) (r : Range) :
    (e.applySelection r).file = e.file := by
  unfold applySelection
  split <;> rfl

end Editor

namespace Host

/-- The host with the editor of a file changed by `f`, if there is one. -/
def editFile (h : Host) (cwd file : Path) (f : Editor → Editor) : Host :=
  { h with
    editors :=
      match h.indexOf? cwd file with
      | some i => h.editors.modify i f
      | none => h.editors }

/-- The files that the editors show. -/
def files (h : Host) : List Path := h.editors.map Editor.file

/-! ### Looking for an editor -/

theorem indexOf?_eq_some_iff {h : Host} {cwd file : Path} {i : Nat} :
    h.indexOf? cwd file = some i ↔ ∃ e, h.editors[i]? = some e ∧ Path.sameFile cwd e.file file ∧
      ∀ j < i, ∀ e, h.editors[j]? = some e → ¬Path.sameFile cwd e.file file := by
  rw [indexOf?, List.findIdx?_eq_some_iff_getElem]
  constructor
  · rintro ⟨hi, hs, hlt⟩
    refine ⟨_, List.getElem?_eq_getElem hi, hs, fun j hj e he => ?_⟩
    obtain ⟨_, rfl⟩ := List.getElem?_eq_some_iff.mp he
    exact hlt j hj
  · rintro ⟨e, he, hs, hlt⟩
    obtain ⟨hi, rfl⟩ := List.getElem?_eq_some_iff.mp he
    exact ⟨hi, hs, fun j hj => hlt j hj _ (List.getElem?_eq_getElem (Nat.lt_trans hj hi))⟩

theorem indexOf?_eq_none_iff {h : Host} {cwd file : Path} :
    h.indexOf? cwd file = none ↔ ∀ e ∈ h.editors, ¬Path.sameFile cwd e.file file := by
  simp [indexOf?, List.findIdx?_eq_none_iff]

theorem editor?_of_indexOf? {h : Host} {cwd file : Path} {i : Nat}
    (hi : h.indexOf? cwd file = some i) : h.editor? cwd file = h.editors[i]? := by
  rw [editor?, hi, Option.bind_some]

/-- Where a file is shown depends on the files of the host only. -/
theorem indexOf?_congr {h h' : Host} (hf : h'.files = h.files) (cwd file : Path) :
    h'.indexOf? cwd file = h.indexOf? cwd file := by
  have key (h : Host) : h.indexOf? cwd file = h.files.findIdx? (Path.sameFile cwd · file) := by
    rw [files, List.findIdx?_map]
    rfl
  rw [key, key, hf]

theorem isSome_editor?_iff {h : Host} {cwd file : Path} :
    (h.editor? cwd file).isSome = true ↔ ∃ e ∈ h.editors, Path.sameFile cwd e.file file := by
  cases hi : h.indexOf? cwd file with
  | none =>
    have hnone := indexOf?_eq_none_iff.mp hi
    rw [editor?, hi]
    exact iff_of_false nofun fun ⟨e, he, hs⟩ => hnone e he hs
  | some i =>
    obtain ⟨e, he, hs, -⟩ := indexOf?_eq_some_iff.mp hi
    rw [editor?_of_indexOf? hi, he]
    exact iff_of_true rfl ⟨e, List.mem_of_getElem? he, hs⟩

/-! ### Editing in place -/

/-- What an edit leaves as it is in an editor, it leaves in all of them. -/
theorem map_modifyEditor {α : Type} (h : Host) (i : Nat) {f : Editor → Editor} {g : Editor → α}
    (hg : ∀ e, g (f e) = g e) : (h.modifyEditor i f).editors.map g = h.editors.map g := by
  refine List.ext_getElem? fun j => ?_
  simp only [modifyEditor, List.getElem?_map, List.getElem?_modify]
  split <;> simp [Option.map_map, Function.comp_def, hg]

theorem map_editFile {α : Type} (h : Host) (cwd file : Path) {f : Editor → Editor} {g : Editor → α}
    (hg : ∀ e, g (f e) = g e) : (h.editFile cwd file f).editors.map g = h.editors.map g := by
  unfold editFile
  split
  · exact h.map_modifyEditor _ hg
  · rfl

/-- Editing in place moves no editor, as long as it shows the same file. -/
theorem files_modifyEditor (h : Host) (i : Nat) {f : Editor → Editor}
    (hf : ∀ e, (f e).file = e.file) : (h.modifyEditor i f).files = h.files :=
  h.map_modifyEditor i hf

theorem files_editFile (h : Host) (cwd file : Path) {f : Editor → Editor}
    (hf : ∀ e, (f e).file = e.file) : (h.editFile cwd file f).files = h.files :=
  h.map_editFile cwd file hf

/-! ### Diagnostics and highlights -/

/-- An editor that is found has a place to edit. -/
theorem editFile_cases (h : Host) (cwd file : Path) (f : Editor → Editor) :
    h.indexOf? cwd file = none ∧ h.editFile cwd file f = h ∨
      ∃ i e, h.indexOf? cwd file = some i ∧ h.editor? cwd file = some e ∧
        h.editFile cwd file f = h.modifyEditor i f := by
  unfold editFile
  cases hi : h.indexOf? cwd file with
  | none => exact .inl ⟨rfl, rfl⟩
  | some i =>
    obtain ⟨e, he, _⟩ := indexOf?_eq_some_iff.mp hi
    exact .inr ⟨i, e, rfl, (editor?_of_indexOf? hi).trans he, rfl⟩

theorem value_setDiagnostics (h : Host) (cwd file : Path) (diagnostics : List Diagnostic) :
    (h.setDiagnostics cwd file diagnostics).value =
      h.editFile cwd file fun e => { e with diagnostics } := by
  rcases h.editFile_cases cwd file fun e => { e with diagnostics } with
    ⟨hi, heq⟩ | ⟨i, e, hi, he, heq⟩
  · simp [setDiagnostics, hi, heq]
  · simp [setDiagnostics, hi, he, heq]

theorem value_setHighlights (h : Host) (cwd file : Path) (highlights : Highlights) :
    (h.setHighlights cwd file highlights).value =
      h.editFile cwd file fun e => { e with highlights := some highlights } := by
  rcases h.editFile_cases cwd file fun e => { e with highlights := some highlights } with
    ⟨hi, heq⟩ | ⟨i, e, hi, he, heq⟩
  · simp [setHighlights, hi, heq]
  · simp [setHighlights, hi, he, heq]

/-! ### Valid hosts -/

/-- No two editors show the same file, and there is an active editor among them if there are any. -/
structure Valid (cwd : Path) (h : Host) : Prop where
  distinct : h.files.Pairwise fun p q => ¬Path.sameFile cwd p q
  active_lt : ∀ i, h.active = some i → i < h.editors.length
  active_none : h.active = none → h.editors = []

section
variable {cwd : Path} {h h' : Host}

theorem Valid.ofSize (cwd : Path) (columns rows : UInt16) : (Host.ofSize columns rows).Valid cwd :=
  ⟨.nil, nofun, fun _ => rfl⟩

theorem Valid.of_files (hv : h.Valid cwd) (hf : h'.files = h.files) (ha : h'.active = h.active) :
    h'.Valid cwd := by
  have hlen : h'.editors.length = h.editors.length := by
    have := congrArg List.length hf
    simpa [files] using this
  refine ⟨hf ▸ hv.distinct, fun i hi => hlen ▸ hv.active_lt i (ha ▸ hi), fun hn => ?_⟩
  rw [← List.length_eq_zero_iff, hlen, hv.active_none (ha ▸ hn), List.length_nil]

/-- The places of two editors that show the same file are the same. -/
theorem Valid.place_unique (hv : h.Valid cwd) {i j : Nat} {d e : Editor}
    (hd : h.editors[i]? = some d) (he : h.editors[j]? = some e)
    (hs : Path.sameFile cwd d.file e.file) : i = j := by
  have key {i j : Nat} {d e : Editor} (hd : h.editors[i]? = some d) (he : h.editors[j]? = some e)
      (hs : Path.sameFile cwd d.file e.file) : ¬i < j := by
    intro hij
    obtain ⟨hi, rfl⟩ := List.getElem?_eq_some_iff.mp hd
    obtain ⟨hj, rfl⟩ := List.getElem?_eq_some_iff.mp he
    have := List.pairwise_iff_getElem.mp hv.distinct i j (by simpa [files] using hi)
      (by simpa [files] using hj) hij
    simp only [files, List.getElem_map] at this
    exact this hs
  have h1 := key hd he hs
  have h2 := key he hd (Path.sameFile_symm hs)
  omega

theorem Valid.indexOf?_eq_some_iff (hv : h.Valid cwd) {file : Path} {i : Nat} :
    h.indexOf? cwd file = some i ↔
      ∃ e, h.editors[i]? = some e ∧ Path.sameFile cwd e.file file := by
  rw [Host.indexOf?_eq_some_iff]
  constructor
  · rintro ⟨e, he, hs, -⟩
    exact ⟨e, he, hs⟩
  · rintro ⟨e, he, hs⟩
    refine ⟨e, he, hs, fun j hj d hd hd' => ?_⟩
    have hplace := hv.place_unique hd he (Path.sameFile_trans hd' (Path.sameFile_symm hs))
    omega

/-- The editor of a file is the only one that shows it. -/
theorem Valid.editor?_eq_some_iff (hv : h.Valid cwd) {file : Path} {e : Editor} :
    h.editor? cwd file = some e ↔
      ∃ i : Nat, h.editors[i]? = some e ∧ Path.sameFile cwd e.file file := by
  rw [editor?, Option.bind_eq_some_iff]
  refine exists_congr fun i => ?_
  rw [hv.indexOf?_eq_some_iff]
  constructor
  · rintro ⟨⟨d, hd, hs⟩, he⟩
    cases hd.symm.trans he
    exact ⟨he, hs⟩
  · rintro ⟨he, hs⟩
    exact ⟨⟨e, he, hs⟩, he⟩

/-- A change for a file is made in every editor that shows it, and in no other. -/
theorem Valid.editors_editFile (hv : h.Valid cwd) (file : Path) (f : Editor → Editor) :
    (h.editFile cwd file f).editors =
      h.editors.map fun e => if Path.sameFile cwd file e.file then f e else e := by
  cases hi : h.indexOf? cwd file with
  | none =>
    have hsame : ∀ e ∈ h.editors, (if Path.sameFile cwd file e.file then f e else e) = e :=
      fun e he => if_neg fun hs => indexOf?_eq_none_iff.mp hi e he (Path.sameFile_symm hs)
    rw [Host.editFile, hi, List.map_congr_left hsame, List.map_id']
  | some i =>
    obtain ⟨d, hd, hs⟩ := hv.indexOf?_eq_some_iff.mp hi
    rw [Host.editFile, hi]
    refine List.ext_getElem? fun j => ?_
    rw [List.getElem?_modify, List.getElem?_map, Option.map_eq_map]
    refine Option.map_congr fun e he => ?_
    by_cases hij : i = j
    · subst hij
      cases hd.symm.trans he
      rw [if_pos rfl, if_pos (Path.sameFile_symm hs)]
    · rw [if_neg hij, if_neg fun hs' => hij (hv.place_unique hd he (Path.sameFile_trans hs hs'))]

theorem Valid.active_eq_none_iff (hv : h.Valid cwd) : h.active = none ↔ h.editors = [] := by
  refine ⟨hv.active_none, fun hempty => ?_⟩
  rw [Option.eq_none_iff_forall_ne_some]
  intro i hi
  have hlt := hv.active_lt i hi
  rw [hempty] at hlt
  exact Nat.not_lt_zero i hlt

theorem Valid.modifyEditor (hv : h.Valid cwd) (i : Nat) {f : Editor → Editor}
    (hf : ∀ e, (f e).file = e.file) : (h.modifyEditor i f).Valid cwd :=
  hv.of_files (files_modifyEditor h i hf) rfl

theorem Valid.editFile (hv : h.Valid cwd) (file : Path) {f : Editor → Editor}
    (hf : ∀ e, (f e).file = e.file) : (h.editFile cwd file f).Valid cwd :=
  hv.of_files (files_editFile h cwd file hf) rfl

/-- Any editor of a valid host can be made the active one. -/
theorem Valid.focus (hv : h.Valid cwd) {i : Nat} (hi : i < h.editors.length) :
    { h with active := some i }.Valid cwd where
  distinct := hv.distinct
  active_lt j hj := by
    cases hj
    exact hi
  active_none := nofun

theorem Valid.append (hv : h.Valid cwd) {e : Editor} (hn : h.indexOf? cwd e.file = none) :
    { h with editors := h.editors ++ [e], active := some h.editors.length }.Valid cwd where
  distinct := by
    rw [files, List.map_append, List.map_singleton, List.pairwise_append]
    refine ⟨hv.distinct, List.pairwise_singleton _ _, fun p hp q hq => ?_⟩
    obtain ⟨d, hd, rfl⟩ := List.mem_map.mp hp
    rw [List.mem_singleton.mp hq]
    exact indexOf?_eq_none_iff.mp hn d hd
  active_lt j hj := by
    cases hj
    simp
  active_none := nofun

/-- An editor that takes the place of one on the same file shows what no other editor shows. -/
theorem Valid.replace (hv : h.Valid cwd) {e : Editor} {i : Nat}
    (hi : h.indexOf? cwd e.file = some i) :
    { h with editors := h.editors.set i e, active := some i }.Valid cwd where
  distinct := by
    obtain ⟨d, hd, hs⟩ := hv.indexOf?_eq_some_iff.mp hi
    rw [List.pairwise_iff_getElem]
    intro j k hj hk hjk hjk'
    simp only [files, List.getElem_map, List.getElem_set, List.length_map, List.length_set]
      at hj hk hjk'
    have place {j : Nat} (hj : j < h.editors.length) (hne : i ≠ j) :
        ¬Path.sameFile cwd h.editors[j].file e.file := fun hs' =>
      hne (hv.place_unique hd (List.getElem?_eq_getElem hj)
        (Path.sameFile_trans hs (Path.sameFile_symm hs')))
    split at hjk'
    · split at hjk'
      · omega
      · next hne => exact place hk hne (Path.sameFile_symm hjk')
    · next hne =>
      split at hjk'
      · exact place hj hne hjk'
      · exact List.pairwise_iff_getElem.mp hv.distinct j k (by simpa [files] using hj)
          (by simpa [files] using hk) hjk (by simpa [files] using hjk')
  active_lt j hj := by
    cases hj
    obtain ⟨d, hd, _⟩ := hv.indexOf?_eq_some_iff.mp hi
    obtain ⟨hi, _⟩ := List.getElem?_eq_some_iff.mp hd
    simpa using hi
  active_none := nofun

theorem Valid.openEditor (hv : h.Valid cwd) (e : Editor) : (h.openEditor cwd e).Valid cwd := by
  unfold Host.openEditor
  split
  · next hi => exact hv.replace hi
  · next hn => exact hv.append hn

end

end Host

end EditorSession
