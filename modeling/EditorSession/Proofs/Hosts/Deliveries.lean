import EditorSession.Proofs.Hosts.Reveal

/-! What editors receive, and which of them do.

Diagnostics and highlights are handed out for files. `Path.latest?` is what was handed out last for
a file, found by absolute path as editors are, and `Editor.Received` says that an editor is one that
was there before, with that in it. In a valid host a change for a file reaches the editors of that
file and no others (`Host.Valid.mem_editFile`). -/

namespace EditorSession

namespace Path

variable {α : Type} {cwd : Path}

/-- What was handed out last for a file, the oldest first. -/
def latest? (cwd : Path) (handed : List (Path × α)) (file : Path) : Option α :=
  ((handed.filter fun d => sameFile cwd d.1 file).getLast?).map Prod.snd

theorem latest?_append (handed later : List (Path × α)) (file : Path) :
    latest? cwd (handed ++ later) file =
      (latest? cwd later file).or (latest? cwd handed file) := by
  rw [latest?, List.filter_append, List.getLast?_append, Option.map_or]
  rfl

theorem latest?_singleton (d : Path × α) (file : Path) :
    latest? cwd [d] file = if sameFile cwd d.1 file then some d.2 else none := by
  by_cases hs : sameFile cwd d.1 file <;> simp [latest?, hs]

theorem mem_of_latest? {handed : List (Path × α)} {file : Path} {a : α}
    (h : latest? cwd handed file = some a) :
    ∃ other, (other, a) ∈ handed ∧ sameFile cwd other file := by
  obtain ⟨d, hd, rfl⟩ := Option.map_eq_some_iff.mp h
  obtain ⟨hd, hs⟩ := List.mem_filter.mp (List.mem_of_getLast? hd)
  exact ⟨d.1, hd, hs⟩

end Path

namespace Editor

variable {cwd : Path}

/-- The editor `e'` is `e` after diagnostics and highlights were handed out: it has the last of them
for its file, and what it had where there were none. -/
structure Received (cwd : Path) (diagnostics : List (Path × List Diagnostic))
    (highlights : List (Path × Highlights)) (e e' : Editor) : Prop where
  file : e'.file = e.file
  diagnostics : e'.diagnostics = (Path.latest? cwd diagnostics e.file).getD e.diagnostics
  highlights : e'.highlights = (Path.latest? cwd highlights e.file).or e.highlights

theorem Received.refl (e : Editor) : Received cwd [] [] e e := ⟨rfl, rfl, rfl⟩

theorem received_setCaret (e : Editor) (p : Position) : Received cwd [] [] e (e.setCaret p) :=
  ⟨rfl, rfl, rfl⟩

theorem received_selectRegion (e : Editor) (r : Range) :
    Received cwd [] [] e (e.selectRegion r) := ⟨rfl, rfl, rfl⟩

theorem received_applySelection (e : Editor) (r : Range) :
    Received cwd [] [] e (e.applySelection r) := by
  rw [applySelection_frame]
  exact ⟨rfl, rfl, rfl⟩

/-- The editor of the file takes the diagnostics, any other stays as it is. -/
theorem received_diagnostics (e : Editor) (d : Path × List Diagnostic) :
    Received cwd [d] [] e
      (if Path.sameFile cwd d.1 e.file then { e with diagnostics := d.2 } else e) := by
  by_cases hs : Path.sameFile cwd d.1 e.file
  · rw [if_pos hs]
    refine ⟨rfl, ?_, rfl⟩
    rw [Path.latest?_singleton, if_pos hs, Option.getD_some]
  · rw [if_neg hs]
    refine ⟨rfl, ?_, rfl⟩
    rw [Path.latest?_singleton, if_neg hs, Option.getD_none]

theorem received_highlights (e : Editor) (d : Path × Highlights) :
    Received cwd [] [d] e
      (if Path.sameFile cwd d.1 e.file then { e with highlights := some d.2 } else e) := by
  by_cases hs : Path.sameFile cwd d.1 e.file
  · rw [if_pos hs]
    refine ⟨rfl, rfl, ?_⟩
    rw [Path.latest?_singleton, if_pos hs, Option.some_or]
  · rw [if_neg hs]
    refine ⟨rfl, rfl, ?_⟩
    rw [Path.latest?_singleton, if_neg hs, Option.none_or]

end Editor

namespace Host

variable {cwd file : Path} {h : Host} {e' : Editor}

theorem mem_modifyEditor {i : Nat} {f : Editor → Editor} (he : e' ∈ (h.modifyEditor i f).editors) :
    ∃ e ∈ h.editors, e' = e ∨ e' = f e := by
  obtain ⟨j, hj⟩ := List.mem_iff_getElem?.mp he
  rw [modifyEditor, List.getElem?_modify, Option.map_eq_map, Option.map_eq_some_iff] at hj
  obtain ⟨e, hmem, rfl⟩ := hj
  refine ⟨e, List.mem_of_getElem? hmem, ?_⟩
  split
  · exact .inr rfl
  · exact .inl rfl

/-- What is done in place in one editor, and keeps what it has received, keeps it in all. -/
theorem received_modifyEditor {i : Nat} {f : Editor → Editor}
    (hf : ∀ e, Editor.Received cwd [] [] e (f e)) (he : e' ∈ (h.modifyEditor i f).editors) :
    ∃ e ∈ h.editors, Editor.Received cwd [] [] e e' := by
  obtain ⟨e, hmem, rfl | rfl⟩ := mem_modifyEditor he
  · exact ⟨_, hmem, .refl _⟩
  · exact ⟨e, hmem, hf e⟩

/-- A change for a file is made in its editor only. -/
theorem Valid.mem_editFile (hv : h.Valid cwd) {f : Editor → Editor}
    (he : e' ∈ (h.editFile cwd file f).editors) :
    ∃ e ∈ h.editors, e' = if Path.sameFile cwd file e.file then f e else e := by
  rw [hv.editors_editFile] at he
  obtain ⟨e, hmem, rfl⟩ := List.mem_map.mp he
  exact ⟨e, hmem, rfl⟩

/-- An editor that is opened is the only one of its file. -/
theorem Valid.mem_openEditor (hv : h.Valid cwd) {e : Editor}
    (he : e' ∈ (h.openEditor cwd e).editors) :
    e' = e ∨ e' ∈ h.editors ∧ ¬Path.sameFile cwd e.file e'.file := by
  unfold Host.openEditor at he
  split at he
  · next i hi =>
    obtain ⟨d, hd, hs⟩ := hv.indexOf?_eq_some_iff.mp hi
    obtain ⟨j, hj⟩ := List.mem_iff_getElem?.mp he
    rw [List.getElem?_set] at hj
    split at hj
    · split at hj
      · exact .inl (Option.some.inj hj).symm
      · cases hj
    · next hij =>
      refine .inr ⟨List.mem_of_getElem? hj, fun hs' => hij ?_⟩
      exact hv.place_unique hd hj (Path.sameFile_trans hs hs')
  · next hn =>
    rcases List.mem_append.mp he with he | he
    · exact .inr ⟨he, fun hs => indexOf?_eq_none_iff.mp hn e' he (Path.sameFile_symm hs)⟩
    · exact .inl (List.mem_singleton.mp he)

/-! ### Which files are shown -/

/-- Some editor of the host shows the file. -/
def Shows (cwd : Path) (h : Host) (file : Path) : Prop :=
  ∃ e ∈ h.editors, Path.sameFile cwd e.file file

theorem not_shows_iff : ¬h.Shows cwd file ↔ h.indexOf? cwd file = none := by
  rw [indexOf?_eq_none_iff, Shows]
  simp

/-- It depends on the files of the host only. -/
theorem Shows.of_files (hs : h.Shows cwd file) {h' : Host} (hf : h'.files = h.files) :
    h'.Shows cwd file := by
  obtain ⟨e, he, hs⟩ := hs
  have hmem : e.file ∈ h'.files := by
    rw [hf]
    exact List.mem_map_of_mem he
  obtain ⟨e', he', heq⟩ := List.mem_map.mp hmem
  refine ⟨e', he', ?_⟩
  rwa [heq]

theorem shows_openEditor_self (h : Host) (cwd : Path) (e : Editor) :
    (h.openEditor cwd e).Shows cwd e.file := by
  refine ⟨e, ?_, Path.sameFile_refl cwd e.file⟩
  unfold openEditor
  split
  · next i hi =>
    obtain ⟨d, hd, -⟩ := indexOf?_eq_some_iff.mp hi
    obtain ⟨hlt, -⟩ := List.getElem?_eq_some_iff.mp hd
    exact List.mem_set hlt e
  · exact List.mem_append_right _ List.mem_cons_self

/-- The editor that gives way to one that is opened showed the same file. -/
theorem Shows.openEditor (hs : h.Shows cwd file) (e : Editor) :
    (h.openEditor cwd e).Shows cwd file := by
  obtain ⟨d, hmem, hs⟩ := hs
  by_cases hfile : Path.sameFile cwd e.file d.file
  · obtain ⟨e', he', hs'⟩ := shows_openEditor_self h cwd e
    exact ⟨e', he', Path.sameFile_trans (Path.sameFile_trans hs' hfile) hs⟩
  · refine ⟨d, ?_, hs⟩
    unfold Host.openEditor
    split
    · next i hi =>
      obtain ⟨j, hj⟩ := List.mem_iff_getElem?.mp hmem
      obtain ⟨c, hc, hsame, -⟩ := indexOf?_eq_some_iff.mp hi
      have hne : i ≠ j := by
        rintro rfl
        cases hc.symm.trans hj
        exact hfile (Path.sameFile_symm hsame)
      exact List.mem_of_getElem? ((List.getElem?_set_ne hne).trans hj)
    · exact List.mem_append_left _ hmem

theorem shows_reveal_self (h : Host) (cwd file : Path) (text : String) (r : Range) :
    (h.reveal cwd file text r).Shows cwd file := by
  unfold reveal
  split
  · next i hi =>
    obtain ⟨d, hd, hs, -⟩ := indexOf?_eq_some_iff.mp hi
    have hshows : h.Shows cwd file := ⟨d, List.mem_of_getElem? hd, hs⟩
    exact hshows.of_files (files_modifyEditor h i fun e => e.file_applySelection r)
  · refine ⟨_, List.mem_append_right _ List.mem_cons_self, ?_⟩
    rw [Editor.file_applySelection]
    exact Path.sameFile_refl cwd file

theorem Shows.reveal (hs : h.Shows cwd file) (other : Path) (text : String) (r : Range) :
    (h.reveal cwd other text r).Shows cwd file := by
  unfold Host.reveal
  split
  · next i _ => exact hs.of_files (files_modifyEditor h i fun e => e.file_applySelection r)
  · obtain ⟨e, he, hs⟩ := hs
    exact ⟨e, List.mem_append_left _ he, hs⟩

/-- A file is opened on its text where no editor shows it, and editors that are there stay. -/
theorem mem_reveal {text : String} {r : Range} (he : e' ∈ (h.reveal cwd file text r).editors) :
    (¬h.Shows cwd file ∧ e' = (Editor.ofText file text).applySelection r) ∨
      ∃ e ∈ h.editors, Editor.Received cwd [] [] e e' := by
  unfold Host.reveal at he
  split at he
  · exact .inr (received_modifyEditor (fun e => e.received_applySelection r) he)
  · next hn =>
    rcases List.mem_append.mp he with he | he
    · exact .inr ⟨e', he, .refl e'⟩
    · exact .inl ⟨not_shows_iff.mpr hn, List.mem_singleton.mp he⟩

/-- A file that cannot be read is shown only where an editor shows it already. -/
theorem value_openAndSelect_of_error {w : World} {cause : DiskError} (r : Range)
    (ht : w.readText file = .error cause) :
    (∀ e' ∈ (h.openAndSelect w file r).value.editors,
      ∃ e ∈ h.editors, Editor.Received w.cwd [] [] e e') ∧
    (h.openAndSelect w file r).value.files = h.files := by
  unfold openAndSelect
  split
  · next i _ =>
    refine ⟨fun e' he => ?_, files_modifyEditor h i fun e => e.file_applySelection r⟩
    exact received_modifyEditor (fun e => e.received_applySelection r) he
  · rw [ht]
    exact ⟨fun e' he => ⟨e', he, .refl e'⟩, rfl⟩

end Host

end EditorSession
