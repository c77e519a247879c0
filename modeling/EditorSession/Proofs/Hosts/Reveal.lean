import EditorSession.Proofs.Files.Reading
import EditorSession.Proofs.Hosts.Editors

/-! Showing a file that can be read.

`Host.reveal` makes the editor of a file active, or opens one, and applies a selection. Opening a
file does this (`Host.value_openAndSelect`), and in a valid host so does showing a document, whether
or not the active editor is the one it needs (`Host.Valid.value_present`). `Host.ShownAt` says all
that this changes, and what it does not. -/

namespace EditorSession

/-- What a request to show a document has to name: a selection, and a URI of a regular file whose
bytes are the encoding of `text`. -/
structure SparseShowRequest.Names (w : World) (p : SparseShowRequest) (file : Path) (range : Range)
    (text : String) : Prop where
  uri : ∃ uri, p.uri = some uri ∧ w.resolve uri = .ok file
  selection : p.selection = some range
  bytes : w.readBytes file = .ok (Utf8.ofString text)

theorem SparseShowRequest.Names.file_unique {w : World} {p : SparseShowRequest}
    {file file' : Path} {range range' : Range} {text text' : String}
    (h : p.Names w file range text) (h' : p.Names w file' range' text') : file = file' := by
  obtain ⟨uri, hu, hfile⟩ := h.uri
  obtain ⟨uri', hu', hfile'⟩ := h'.uri
  cases hu.symm.trans hu'
  exact Except.ok.inj (hfile.symm.trans hfile')

namespace Editor

theorem applySelection_of_eq (e : Editor) {r : Range} (h : r.start = r.stop) :
    e.applySelection r = { e with cursor := r.start, selection := none } := if_pos h

theorem applySelection_of_ne (e : Editor) {r : Range} (h : r.start ≠ r.stop) :
    e.applySelection r = { e with cursor := r.stop, selection := some r } := if_neg h

/-- A selection changes the caret and the selection only. -/
theorem applySelection_frame (e : Editor) (r : Range) : e.applySelection r =
    { e with cursor := (e.applySelection r).cursor
             selection := (e.applySelection r).selection } := by
  by_cases h : r.start = r.stop
  · simp [applySelection_of_eq e h]
  · simp [applySelection_of_ne e h]

end Editor

namespace Host

/-- The host with the editor of a file active and a selection applied to it. The editor is opened on
`text` if there is none. -/
def reveal (h : Host) (cwd file : Path) (text : String) (r : Range) : Host :=
  match h.indexOf? cwd file with
  | some i => { h.modifyEditor i (·.applySelection r) with active := some i }
  | none =>
    { h with editors := h.editors ++ [(Editor.ofText file text).applySelection r]
             active := some h.editors.length }

/-- `h'` is `h` with the editor `e` at place `i`, which shows `file`, made active and given the
selection `r`. -/
structure ShownAt (cwd file : Path) (text : String) (r : Range) (h h' : Host) (i : Nat)
    (e : Editor) : Prop where
  active : h'.active = some i
  editor : h'.editors[i]? = some e
  shows : Path.sameFile cwd e.file file
  only : ∀ j d, h'.editors[j]? = some d → Path.sameFile cwd d.file file → j = i
  caret : r.start = r.stop → e.cursor = r.start ∧ e.selection = none
  selection : r.start ≠ r.stop → e.cursor = r.stop ∧ e.selection = some r
  /-- An editor that showed the file is the one, and no editor is added. -/
  kept : ∀ j d, h.editors[j]? = some d → Path.sameFile cwd d.file file →
    j = i ∧ h'.editors.length = h.editors.length ∧
      e = { d with cursor := e.cursor, selection := e.selection }
  /-- Else there is one more editor, on the text of the file. -/
  opened : (∀ d ∈ h.editors, ¬Path.sameFile cwd d.file file) →
    i = h.editors.length ∧ h'.editors.length = h.editors.length + 1 ∧
      e = { Editor.ofText file text with cursor := e.cursor, selection := e.selection }
  others : ∀ j ≠ i, h'.editors[j]? = h.editors[j]?
  frame : h' = { h with editors := h'.editors, active := h'.active }

section
variable {cwd file : Path} {text : String} {r : Range} {h : Host}

theorem reveal_of_open {i : Nat} (hi : h.indexOf? cwd file = some i) :
    h.reveal cwd file text r =
      { h.editFile cwd file (·.applySelection r) with active := some i } := by
  rw [reveal, editFile, hi]
  rfl

theorem reveal_of_not_open (hn : h.indexOf? cwd file = none) :
    h.reveal cwd file text r =
      { h with editors := h.editors ++ [(Editor.ofText file text).applySelection r]
               active := some h.editors.length } := by
  rw [reveal, hn]

theorem Valid.reveal (hv : h.Valid cwd) : (h.reveal cwd file text r).Valid cwd := by
  unfold Host.reveal
  cases hi : h.indexOf? cwd file with
  | some i =>
    obtain ⟨e, he, _⟩ := hv.indexOf?_eq_some_iff.mp hi
    obtain ⟨hlt, _⟩ := List.getElem?_eq_some_iff.mp he
    exact (hv.modifyEditor i fun e => e.file_applySelection r).focus (by simpa [Host.modifyEditor])
  | none =>
    refine hv.append ?_
    rw [Editor.file_applySelection]
    exact hi

theorem caret_applySelection (e : Editor) (hr : r.start = r.stop) :
    (e.applySelection r).cursor = r.start ∧ (e.applySelection r).selection = none := by
  rw [Editor.applySelection_of_eq e hr]
  exact ⟨rfl, rfl⟩

theorem selection_applySelection (e : Editor) (hr : r.start ≠ r.stop) :
    (e.applySelection r).cursor = r.stop ∧ (e.applySelection r).selection = some r := by
  rw [Editor.applySelection_of_ne e hr]
  exact ⟨rfl, rfl⟩

/-- The editor that shows the file already is the one that gets the selection. -/
theorem Valid.shownAt_of_open (hv : h.Valid cwd) (text : String) (r : Range) {i : Nat}
    (hi : h.indexOf? cwd file = some i) :
    ∃ e, ShownAt cwd file text r h (h.reveal cwd file text r) i e := by
  obtain ⟨e, he, hs⟩ := hv.indexOf?_eq_some_iff.mp hi
  have hv' : (h.reveal cwd file text r).Valid cwd := hv.reveal
  have heq : h.reveal cwd file text r =
      { h.modifyEditor i (·.applySelection r) with active := some i } := by
    rw [Host.reveal, hi]
  have hat (j : Nat) : (h.reveal cwd file text r).editors[j]? =
      (fun e => if i = j then e.applySelection r else e) <$> h.editors[j]? := by
    rw [heq]
    exact List.getElem?_modify ..
  have hei : (h.reveal cwd file text r).editors[i]? = some (e.applySelection r) := by
    rw [hat, he]
    simp
  refine ⟨e.applySelection r, ?_⟩
  constructor
  case active => rw [heq]
  case editor => exact hei
  case shows => rwa [Editor.file_applySelection]
  case only =>
    intro j d hd hs'
    refine hv'.place_unique hd hei (Path.sameFile_trans hs' ?_)
    rw [Editor.file_applySelection]
    exact Path.sameFile_symm hs
  case caret => exact caret_applySelection e
  case selection => exact selection_applySelection e
  case kept =>
    intro j d hd hs'
    obtain rfl := hv.place_unique hd he (Path.sameFile_trans hs' (Path.sameFile_symm hs))
    rw [he] at hd
    cases hd
    refine ⟨rfl, ?_, e.applySelection_frame r⟩
    rw [heq]
    exact List.length_modify ..
  case opened => exact fun hn => (hn e (List.mem_of_getElem? he) hs).elim
  case others =>
    intro j hj
    simp [hat, Ne.symm hj]
  case frame =>
    rw [heq]
    rfl

/-- Where no editor shows the file, the one that is opened does. -/
theorem Valid.shownAt_of_not_open (hv : h.Valid cwd) (text : String) (r : Range)
    (hn : h.indexOf? cwd file = none) :
    ∃ e, ShownAt cwd file text r h (h.reveal cwd file text r) h.editors.length e := by
  have hnone := indexOf?_eq_none_iff.mp hn
  have hv' : (h.reveal cwd file text r).Valid cwd := hv.reveal
  have heq : h.reveal cwd file text r = _ := reveal_of_not_open hn
  have hfile : ((Editor.ofText file text).applySelection r).file = file :=
    Editor.file_applySelection ..
  have hei : (h.reveal cwd file text r).editors[h.editors.length]? =
      some ((Editor.ofText file text).applySelection r) := by
    rw [heq]
    exact List.getElem?_concat_length
  refine ⟨(Editor.ofText file text).applySelection r, ?_⟩
  constructor
  case active => rw [heq]
  case editor => exact hei
  case shows =>
    rw [hfile]
    exact Path.sameFile_refl cwd file
  case only =>
    intro j d hd hs
    refine hv'.place_unique hd hei ?_
    rwa [hfile]
  case caret => exact caret_applySelection _
  case selection => exact selection_applySelection _
  case kept => exact fun j d hd hs => (hnone d (List.mem_of_getElem? hd) hs).elim
  case opened =>
    refine fun _ => ⟨rfl, ?_, Editor.applySelection_frame _ r⟩
    rw [heq]
    simp
  case others =>
    intro j hj
    rw [heq]
    rcases Nat.lt_or_gt_of_ne hj with hj | hj
    · exact List.getElem?_append_left hj
    · rw [List.getElem?_eq_none (by simp; omega), List.getElem?_eq_none (Nat.le_of_lt hj)]
  case frame =>
    rw [heq]

theorem Valid.shownAt_reveal (hv : h.Valid cwd) (text : String) (r : Range) :
    ∃ i e, ShownAt cwd file text r h (h.reveal cwd file text r) i e := by
  cases hi : h.indexOf? cwd file with
  | some i => exact ⟨i, hv.shownAt_of_open text r hi⟩
  | none => exact ⟨_, hv.shownAt_of_not_open text r hi⟩

end

theorem value_openAndSelect (h : Host) {w : World} {file : Path} {text : String} (r : Range)
    (ht : w.readText file = .ok text) :
    (h.openAndSelect w file r).value = h.reveal w.cwd file text r := by
  unfold openAndSelect reveal
  cases hi : h.indexOf? w.cwd file with
  | some i => rfl
  | none =>
    simp only [ht, Logged.value_withNotice, openEditor, Editor.file_applySelection]
    rw [show (Editor.ofText file text).file = file from rfl, hi]

/-- The active editor is used if it shows the file, and else the file is opened. -/
theorem present_cases (h : Host) (w : World) (file : Path) (r : Range) :
    (∃ i e, h.active = some i ∧ h.editors[i]? = some e ∧ Path.sameFile w.cwd e.file file ∧
      h.present w file r = pure (h.modifyEditor i (·.applySelection r))) ∨
    h.present w file r = (do
      Logged.withNotice (.openingDocument file) ()
      h.openAndSelect w file r) := by
  unfold present
  split
  · next i e hi he =>
    rw [activeEditor?, hi, Option.bind_some] at he
    split
    · next hs => exact .inl ⟨i, e, hi, he, hs, rfl⟩
    · exact .inr rfl
  · exact .inr rfl

/-- Opening the file of the active editor selects in that editor and moves no focus. -/
theorem Valid.openAndSelect_active {h : Host} {w : World} (hv : h.Valid w.cwd) {i : Nat}
    {e : Editor} {file : Path} (hi : h.active = some i) (he : h.editors[i]? = some e)
    (hs : Path.sameFile w.cwd e.file file) (r : Range) :
    h.openAndSelect w file r = pure (h.modifyEditor i (·.applySelection r)) := by
  have hindex := hv.indexOf?_eq_some_iff.mpr ⟨e, he, hs⟩
  rw [Host.openAndSelect, hindex]
  change pure { h.modifyEditor i _ with active := some i } = _
  rw [← hi]
  rfl

/-- The active editor is used only if a search by file finds it too. -/
theorem Valid.value_present {h : Host} {w : World} (hv : h.Valid w.cwd) {file : Path}
    {text : String} (r : Range) (ht : w.readText file = .ok text) :
    (h.present w file r).value = h.reveal w.cwd file text r := by
  have hopen := h.value_openAndSelect r ht
  rcases h.present_cases w file r with ⟨i, e, hi, he, hs, hp⟩ | hp
  · rwa [hp, ← hv.openAndSelect_active hi he hs r]
  · rwa [hp]

theorem showTarget?_eq_some_iff {w : World} {p : SparseShowRequest} {file : Path} {range : Range} :
    showTarget? w p = some (file, range) ↔ ∃ text, p.Names w file range text := by
  constructor
  · intro h
    unfold showTarget? at h
    split at h
    · next uri selection hu hsel =>
      split at h
      · cases h
      · next found hfile =>
        split at h
        · cases h
        · next text ht =>
          cases h
          have hbytes := World.readText_eq_ok_iff.mp (World.readUtf8_eq_ok_iff.mp ht)
          exact ⟨text, ⟨uri, hu, hfile⟩, hsel, hbytes⟩
    · cases h
  · rintro ⟨text, ⟨uri, hu, hfile⟩, hsel, hbytes⟩
    have ht := World.readUtf8_eq_ok_iff.mpr (World.readText_eq_ok_iff.mpr hbytes)
    simp [showTarget?, hu, hsel, hfile, ht]

theorem Valid.value_showDocument {h : Host} {w : World} (hv : h.Valid w.cwd) {p : SparseShowRequest}
    {file : Path} {range : Range} {text : String} (hp : p.Names w file range text) :
    (h.showDocument w p).value = (h.reveal w.cwd file text range, true) := by
  have ht := World.readText_eq_ok_iff.mpr hp.bytes
  rw [showDocument, showTarget?_eq_some_iff.mpr ⟨text, hp⟩]
  simp only [Logged.value_bind, Logged.value_pure, hv.value_present range ht]

/-- A request that names nothing that can be shown changes nothing. -/
theorem value_showDocument_of_not_names {h : Host} {w : World} {p : SparseShowRequest}
    (hp : ∀ file range text, ¬p.Names w file range text) :
    (h.showDocument w p).value = (h, false) := by
  unfold showDocument
  split
  · rfl
  · next file range htarget =>
    obtain ⟨text, hnames⟩ := showTarget?_eq_some_iff.mp htarget
    exact (hp file range text hnames).elim

theorem Valid.value_showDocument_cases {h : Host} {w : World} (hv : h.Valid w.cwd)
    (p : SparseShowRequest) :
    (∃ file range text, p.Names w file range text ∧
      (h.showDocument w p).value = (h.reveal w.cwd file text range, true)) ∨
      (∀ file range text, ¬p.Names w file range text) ∧ (h.showDocument w p).value = (h, false) := by
  by_cases hp : ∃ file range text, p.Names w file range text
  · obtain ⟨file, range, text, hp⟩ := hp
    exact .inl ⟨file, range, text, hp, hv.value_showDocument hp⟩
  · have hn : ∀ file range text, ¬p.Names w file range text :=
      fun file range text h => hp ⟨file, range, text, h⟩
    exact .inr ⟨hn, value_showDocument_of_not_names hn⟩

end Host
end EditorSession
