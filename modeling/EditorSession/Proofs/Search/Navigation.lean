import EditorSession.Proofs.Search.Groups
import EditorSession.Proofs.Session.Reachable

/-! A place that a search finds is where a request to show it leads.

Search and navigation both take the text of a file from the editor that shows it, and from the disk
if there is none. In a valid host this is the same editor whichever way it is looked for
(`Host.Valid.openText_eq_some_iff`), so the editor that a request makes active has the text in which
the place was found (`Host.ShownAt.content_eq`). -/

namespace EditorSession

namespace Utf8

theorem ofString_injective {a b : String} (h : ofString a = ofString b) : a = b := by
  have ha := toString?_eq_some_iff.mpr (rfl : ofString a = ofString a)
  have hb := toString?_eq_some_iff.mpr h
  exact Option.some.inj (ha.symm.trans hb)

end Utf8

namespace Host

variable {cwd file : Path} {h : Host}

theorem Valid.openText_eq_some_iff (hv : h.Valid cwd) {content : Content} :
    h.openText cwd file = some content ↔
      ∃ (i : Nat) (e : Editor), h.editors[i]? = some e ∧ Path.sameFile cwd e.file file ∧
        e.content = content := by
  rw [openText, Option.map_eq_some_iff]
  constructor
  · rintro ⟨e, he, hc⟩
    obtain ⟨i, he, hs⟩ := hv.editor?_eq_some_iff.mp he
    exact ⟨i, e, he, hs, hc⟩
  · rintro ⟨i, e, he, hs, hc⟩
    exact ⟨e, hv.editor?_eq_some_iff.mpr ⟨i, he, hs⟩, hc⟩

theorem Valid.openText_eq_none_iff (hv : h.Valid cwd) :
    h.openText cwd file = none ↔ ∀ e ∈ h.editors, ¬Path.sameFile cwd e.file file := by
  rw [Option.eq_none_iff_forall_ne_some]
  constructor
  · intro hn e he hs
    obtain ⟨i, hi⟩ := List.mem_iff_getElem?.mp he
    exact hn e.content (hv.openText_eq_some_iff.mpr ⟨i, e, hi, hs, rfl⟩)
  · intro hn content hc
    obtain ⟨i, e, he, hs, -⟩ := hv.openText_eq_some_iff.mp hc
    exact hn e (List.mem_of_getElem? he) hs

/-- The editor that is shown has the text that a search of the file would read. -/
theorem ShownAt.content_eq {text : String} {r : Range} {h' : Host} {i : Nat} {e : Editor}
    (hat : ShownAt cwd file text r h h' i e) (hv : h.Valid cwd) {content : Content}
    (hc : h.openText cwd file = some content ∨
      h.openText cwd file = none ∧ text = content.text) : e.content = content := by
  rcases hc with hopen | ⟨hnone, htext⟩
  · obtain ⟨j, d, hd, hs, rfl⟩ := hv.openText_eq_some_iff.mp hopen
    obtain ⟨-, -, he⟩ := hat.kept j d hd hs
    rw [he]
  · obtain ⟨-, -, he⟩ := hat.opened (hv.openText_eq_none_iff.mp hnone)
    rw [he, htext]
    rfl

end Host

namespace Session

variable {Server : Type} {s : Session Server}

/-- A request to show a place that was found, in a file that is text on the disk too, succeeds. The
active editor then has the line and the match of the result, and the place is selected. -/
theorem showDocument_of_found (hs : s.Reachable) {h : Host} (hh : s.client.host = some h)
    (disk : Disk) (l : Location) {r : SearchResult}
    (hfound : Search.resolve { s.world with disk } (h.openText s.world.cwd) l.toSparse =
      .ok (.found r))
    (hbytes : ∃ text, World.readBytes { s.world with disk } r.file = .ok (Utf8.ofString text))
    (p : SparseShowRequest) (hu : p.uri = some l.uri) (hsel : p.selection = some l.range) :
    let shown := (s.client.showDocument { s.world with disk } p).value
    shown.2 = true ∧ ∃ h' e, shown.1.host = some h' ∧ h'.activeEditor? = some e ∧
      Path.sameFile s.world.cwd e.file r.file ∧
      e.content.line l.range.start.line = .ok r.line ∧
      e.content.sub l.range.start l.range.stop = .ok r.matched ∧
      (l.range.start = l.range.stop → e.cursor = l.range.start ∧ e.selection = none) ∧
      (l.range.start ≠ l.range.stop → e.cursor = l.range.stop ∧ e.selection = some l.range) := by
  intro shown
  obtain ⟨text, hbytes⟩ := hbytes
  obtain ⟨content, ht, hline, hsub⟩ := Search.resolve_eq_found_iff_hasText.mp hfound
  have hrange : l.range = r.range := Option.some.inj ht.place
  have hnames : p.Names { s.world with disk } r.file l.range text := by
    obtain ⟨uri, hl, hfile⟩ := ht.uri
    exact ⟨⟨uri, hu.trans hl, hfile⟩, hsel, hbytes⟩
  have hv : h.Valid s.world.cwd := valid_of_reachable hs h hh
  have hat : ∃ i e, Host.ShownAt s.world.cwd r.file text l.range h
      (h.reveal s.world.cwd r.file text l.range) i e := hv.shownAt_reveal text l.range
  obtain ⟨i, e, hat⟩ := hat
  have hcontent : e.content = content := by
    refine hat.content_eq hv ?_
    rcases ht.text with hopen | ⟨hnone, hdisk⟩
    · exact .inl hopen
    · exact .inr ⟨hnone, Utf8.ofString_injective (Except.ok.inj (hbytes.symm.trans hdisk))⟩
  have hshown : shown = ({ s.client with host := some (h.reveal s.world.cwd r.file text l.range) },
      true) := by
    have hvalue := hv.value_showDocument (w := { s.world with disk }) hnames
    exact (Client.value_showDocument_of_some hh _ p).trans (by rw [hvalue])
  have hactive : (h.reveal s.world.cwd r.file text l.range).activeEditor? = some e := by
    rw [Host.activeEditor?, hat.active, Option.bind_some, hat.editor]
  rw [← hrange, ← hcontent] at hline hsub
  rw [hshown]
  exact ⟨rfl, _, e, rfl, hactive, hat.shows, hline, hsub, hat.caret, hat.selection⟩

/-- A match in the second line of a file that is open with changes, while another file is active. -/
theorem showDocument_of_found_unsaved :
    let w : World := { cwd := .ofString "/", disk := ⟨[([[0x61]], .file [0x78])]⟩ }
    let s : Session Unit := Session.run ⟨{}, w⟩
      [.attachHost (.ofSize 80 24), .openEditor (.ofString "/a") "x\nyz",
        .openEditor (.ofString "/b") ""]
    let l : Location :=
      { uri := { scheme := "file", authority := none, path := .rooted ["a"] }
        range := { start := { line := 1, character := 1 }, stop := { line := 1, character := 2 } } }
    let p : SparseShowRequest := { uri := some l.uri, selection := some l.range }
    let r : SearchResult :=
      { file := .ofString "/a", range := l.range, line := "yz", matched := "z" }
    let shown := (s.client.showDocument { s.world with disk := w.disk } p).value
    ∃ h, s.client.host = some h ∧
      Search.resolve { s.world with disk := w.disk } (h.openText s.world.cwd) l.toSparse =
        .ok (.found r) ∧
      shown.2 = true ∧ ∃ h' e, shown.1.host = some h' ∧ h'.activeEditor? = some e ∧
      Path.sameFile s.world.cwd e.file r.file ∧
      e.content.line l.range.start.line = .ok r.line ∧
      e.content.sub l.range.start l.range.stop = .ok r.matched ∧
      (l.range.start = l.range.stop → e.cursor = l.range.start ∧ e.selection = none) ∧
      (l.range.start ≠ l.range.stop → e.cursor = l.range.stop ∧ e.selection = some l.range) := by
  intro w s l p r shown
  have hnew : Reachable (Session.run ⟨{}, w⟩ [.attachHost (.ofSize 80 24)] : Session Unit) :=
    (Reachable.new {} w).attachNew 80 24
  have hs : s.Reachable := (hnew.step (.openEditor (.ofString "/a") "x\nyz") nofun).step
    (.openEditor (.ofString "/b") "") nofun
  have hfound : Search.resolve { s.world with disk := w.disk }
      ((s.client.host.get rfl).openText s.world.cwd) l.toSparse = .ok (.found r) := by
    decide +kernel
  exact ⟨_, rfl, hfound, showDocument_of_found hs rfl w.disk l hfound ⟨"x", by decide⟩ p rfl rfl⟩

end Session

end EditorSession
