import EditorSession.Proofs.Session.Reachable

/-! Showing a document does not depend on the test of the active editor.

`Host.showByOpening` always opens the file of a request. A look-up by file finds the active editor
if that shows the file, so in a valid host this leads to the same editor and gives it the same
selection. Only the records differ, by the one of the opening (`Host.Valid.showDocument_cases`). -/

namespace EditorSession

namespace Host

/-- Shows a document as `showDocument` does, but without a test of the active editor. -/
def showByOpening (h : Host) (w : World) (p : SparseShowRequest) : Logged (Host × Bool) :=
  match showTarget? w p with
  | none => pure (h, false)
  | some (file, selection) => do
    Logged.withNotice (.openingDocument file) ()
    let h ← h.openAndSelect w file selection
    pure (h, true)

variable {h : Host} {w : World}

/-- Either the two ways are one, or the active editor shows the file of the request, and one record
tells them apart. -/
theorem Valid.showDocument_cases (hv : h.Valid w.cwd) (p : SparseShowRequest) :
    h.showDocument w p = h.showByOpening w p ∨
    ∃ file e, h.activeEditor? = some e ∧ Path.sameFile w.cwd e.file file ∧
      (h.showDocument w p).value = (h.showByOpening w p).value ∧
      (h.showDocument w p).notices = [] ∧
      (h.showByOpening w p).notices = [.openingDocument file] := by
  unfold Host.showDocument showByOpening
  cases showTarget? w p with
  | none => exact .inl rfl
  | some target =>
    obtain ⟨file, r⟩ := target
    rcases h.present_cases w file r with ⟨i, e, hi, he, hs, hp⟩ | hp
    · have hactive : h.activeEditor? = some e := by rw [activeEditor?, hi, Option.bind_some, he]
      have hopen := hv.openAndSelect_active hi he hs r
      exact .inr ⟨file, e, hactive, hs, by simp [hp, hopen]⟩
    · -- the test fails, so the rest is what `showByOpening` does
      left
      simp only [hp]
      rfl

end Host

namespace Session

variable {Server : Type} {s : Session Server}

/-- In a reachable session a document is shown in the same way, with the same answer, whether or not
the active editor is tested first. The records differ at most by the one that tells of the opening,
if the active editor shows the document already. -/
theorem showDocument_eq_showByOpening (hs : s.Reachable) {h : Host} (hh : s.client.host = some h)
    (disk : Disk) (p : SparseShowRequest) :
    let w : World := { s.world with disk }
    let shown := h.showDocument w p
    let opened := h.showByOpening w p
    shown.value = opened.value ∧
    (shown.notices = opened.notices ∨ ∃ file e, h.activeEditor? = some e ∧
      Path.sameFile w.cwd e.file file ∧ shown.notices = [] ∧
      opened.notices = [.openingDocument file] ∧ (Notice.openingDocument file).level = .info) := by
  intro w shown opened
  have hv : h.Valid w.cwd := valid_of_reachable hs h hh
  rcases hv.showDocument_cases p with heq | ⟨file, e, he, hsame, hvalue, hnone, hone⟩
  · exact ⟨congrArg Logged.value heq, .inl (congrArg Logged.notices heq)⟩
  · exact ⟨hvalue, .inr ⟨file, e, he, hsame, hnone, hone, rfl⟩⟩

/-- A file that is open under another spelling and active, among others. -/
theorem showDocument_eq_showByOpening_spelling :
    let w : World := { cwd := .ofString "/", disk := ⟨[([[0x61]], .file [0x78])]⟩ }
    let s : Session Unit := Session.run ⟨{}, w⟩
      [.attachHost (.ofSize 80 24), .openEditor (.ofString "/b") "",
        .openEditor (.ofString "./a/") "y"]
    let p : SparseShowRequest :=
      { uri := some { scheme := "file", authority := none, path := .rooted ["a"] }
        selection := some { start := ⟨0, 0⟩, stop := ⟨0, 1⟩ } }
    ∃ h, s.Reachable ∧ s.client.host = some h ∧
      let shown := h.showDocument { s.world with disk := w.disk } p
      let opened := h.showByOpening { s.world with disk := w.disk } p
      opened.notices.length = 1 ∧ shown.value = opened.value ∧
      (shown.notices = opened.notices ∨ ∃ file e, h.activeEditor? = some e ∧
        Path.sameFile w.cwd e.file file ∧ shown.notices = [] ∧
        opened.notices = [.openingDocument file] ∧
        (Notice.openingDocument file).level = .info) := by
  intro w s p
  have hnew : Reachable (Session.run ⟨{}, w⟩ [.attachHost (.ofSize 80 24)] : Session Unit) :=
    (Reachable.new {} w).attachNew 80 24
  have hs : s.Reachable := (hnew.step (.openEditor (.ofString "/b") "") nofun).step
    (.openEditor (.ofString "./a/") "y") nofun
  exact ⟨_, hs, rfl, by decide +kernel, showDocument_eq_showByOpening hs rfl w.disk p⟩

end Session

end EditorSession
