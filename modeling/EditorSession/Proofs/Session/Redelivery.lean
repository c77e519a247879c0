import EditorSession.Proofs.Diagnostics.History
import EditorSession.Proofs.Hosts.Visits
import EditorSession.Proofs.Session.Reachable
import EditorSession.Proofs.Session.Traffic

/-! What is delivered twice has the effect of what is delivered once.

The second delivery takes other ways than the first: a file that was added to the store is replaced,
a document that was opened is found, and a popup that was hidden is shown again. The lemmas named
`again` say of each operation of the client that it finds what it would make. Showing a document
needs for this that every file has one editor at most (`Host.Valid.reveal_reveal`): else the second
request might find another editor than the first one left active. -/

namespace EditorSession

/-- A selection is applied if the caret is where it would be placed. -/
theorem Editor.applySelection_eq_self {e : Editor} {r : Range} (h : e.caret = r.caret) :
    e.applySelection r = e := by
  have hcaret : (e.applySelection r).caret = e.caret := (e.caret_applySelection r).trans h.symm
  have hcursor : (e.applySelection r).cursor = e.cursor := congrArg Prod.fst hcaret
  have hselection : (e.applySelection r).selection = e.selection := congrArg Prod.snd hcaret
  rw [applySelection_frame, hcursor, hselection]

namespace Host

variable {cwd file : Path} {h : Host}

theorem editFile_editFile (h : Host) (cwd file : Path) {f : Editor → Editor}
    (hf : ∀ e, (f e).file = e.file) (hff : ∀ e, f (f e) = f e) :
    (h.editFile cwd file f).editFile cwd file f = h.editFile cwd file f := by
  have hi := indexOf?_congr (h.files_editFile cwd file hf) cwd file
  have hcomp : f ∘ f = f := funext hff
  unfold editFile at hi ⊢
  rw [hi]
  cases h.indexOf? cwd file with
  | none => rfl
  | some i => simp only [List.modify_modify_eq, hcomp]

theorem Valid.editFile_eq_self (hv : h.Valid cwd) {f : Editor → Editor}
    (hf : ∀ e ∈ h.editors, Path.sameFile cwd file e.file → f e = e) :
    h.editFile cwd file f = h := by
  have heditors : (h.editFile cwd file f).editors = h.editors := by
    rw [hv.editors_editFile]
    refine (List.map_congr_left fun e he => ?_).trans (List.map_id' h.editors)
    split
    · next hs => exact hf e he hs
    · rfl
  exact congrArg (fun editors => { h with editors }) heditors

theorem presentDiagnostics_again (h : Host) (cwd : Path) (store : DiagnosticStore)
    (e : Path × List Diagnostic) :
    (h.presentDiagnostics cwd store e).presentDiagnostics cwd store e =
      h.presentDiagnostics cwd store e := by
  have hedit := h.editFile_editFile cwd e.1 (f := fun editor => { editor with diagnostics := e.2 })
    (fun _ => rfl) fun _ => rfl
  exact congrArg
    (fun h => { h with diagnosticsEmpty := false, diagnosticGroups := store.groups }) hedit

/-- The editor that was made active is found, with its caret where it would be placed. -/
theorem Valid.reveal_reveal (hv : h.Valid cwd) (file : Path) (text : String) (r : Range) :
    (h.reveal cwd file text r).reveal cwd file text r = h.reveal cwd file text r := by
  have hv' : (h.reveal cwd file text r).Valid cwd := hv.reveal
  have hvisited := hv.visited_reveal file text r
  obtain ⟨i, e, hactive, he, hs⟩ := hvisited.active (file, r) rfl
  have hi := hv'.indexOf?_eq_some_iff.mpr ⟨e, he, Path.sameFile_symm hs⟩
  have hedit : (h.reveal cwd file text r).editFile cwd file (·.applySelection r) =
      h.reveal cwd file text r :=
    hv'.editFile_eq_self fun d hd hs => Editor.applySelection_eq_self (hvisited.caret_eq hd hs)
  rw [reveal_of_open hi, hedit, ← hactive]

end Host

variable {Server : Type}

namespace Client

theorem publish_again (c : Client Server) (w : World) (p : SparsePublication) :
    ((c.publish w p).value.publish w p).value = (c.publish w p).value := by
  cases heffect : p.effect? w with
  | none =>
    rw [value_publish_of_none _ heffect, value_publish_of_none _ heffect]
    simp only [Option.map_map]
    rfl
  | some e =>
    rw [value_publish_of_some _ heffect, value_publish_of_some _ heffect]
    simp only [DiagnosticStore.replace_replace, Option.map_map, Function.comp_def,
      Host.presentDiagnostics_again]

theorem highlight_again (c : Client Server) (cwd : Path) (highlights : Highlights) :
    ((c.highlight cwd highlights).value.highlight cwd highlights).value =
      (c.highlight cwd highlights).value := by
  cases hfile : highlights.uri.filePath? with
  | none => simp only [value_highlight, hfile]
  | some file =>
    have hedit (h : Host) := h.editFile_editFile cwd file
      (f := fun e => { e with highlights := some highlights }) (fun _ => rfl) fun _ => rfl
    simp only [value_highlight, hfile, Option.map_map, Function.comp_def, hedit]

theorem hideSignature_again (c : Client Server) :
    c.hideSignature.hideSignature = c.hideSignature := by
  simp only [hideSignature, Option.map_map]
  rfl

/-- What is on display makes no difference to what is shown next. -/
theorem value_showSignature_hideSignature (c : Client Server) (cwd : Path)
    (help : Option SignatureHelp) (file : Path) :
    (c.hideSignature.showSignature cwd help file).value =
      (c.showSignature cwd help file).value := by
  obtain ⟨host, connection, diagnostics, signature, results⟩ := c
  unfold showSignature
  cases host with
  | none => rfl
  | some h =>
    have heditor : h.hideSignature.editor? cwd file = h.editor? cwd file := rfl
    cases help.bind fun help => help.selected?.map (help, ·) with
    | none => rfl
    | some pick =>
      obtain ⟨given, signature⟩ := pick
      simp only [hideSignature, Option.map_some, heditor]
      cases signature.format? given.activeParameter with
      | none => rfl
      | some label => cases h.editor? cwd file <;> rfl

theorem hideSignature_showSignature (c : Client Server) (cwd : Path)
    (help : Option SignatureHelp) (file : Path) :
    (c.showSignature cwd help file).value.hideSignature = c.hideSignature := by
  rcases c.value_showSignature_cases cwd help file with
    hv | ⟨h, e, given, signature, label, hc, -, -, -, -, hv⟩
  · rw [hv, hideSignature_again]
  · rw [hv, hideSignature, hideSignature, hc]
    rfl

theorem showSignature_again (c : Client Server) (cwd : Path) (help : Option SignatureHelp)
    (file : Path) :
    ((c.showSignature cwd help file).value.showSignature cwd help file).value =
      (c.showSignature cwd help file).value := by
  rw [← value_showSignature_hideSignature, hideSignature_showSignature,
    value_showSignature_hideSignature]

theorem showLocations_again (c : Client Server) (w : World) (locations : List SparseLocation) :
    ((c.showLocations w locations).value.showLocations w locations).value =
      (c.showLocations w locations).value := by
  cases hc : c.host with
  | none => rw [value_showLocations_of_none hc, value_showLocations_of_none hc]
  | some h =>
    rw [value_showLocations_of_some hc, value_showLocations_of_some rfl]
    rfl

theorem showLinks_again (c : Client Server) (w : World) (links : List SparseLink) :
    ((c.showLinks w links).value.showLinks w links).value = (c.showLinks w links).value := by
  unfold showLinks
  split
  · rfl
  · exact c.showLocations_again w _

theorem showDocument_again {c : Client Server} {w : World}
    (hv : ∀ h, c.host = some h → h.Valid w.cwd) (p : SparseShowRequest) :
    ((c.showDocument w p).value.1.showDocument w p).value = (c.showDocument w p).value := by
  cases hc : c.host with
  | none =>
    rw [value_showDocument_of_none hc]
    exact value_showDocument_of_none hc w p
  | some h =>
    have hv := hv h hc
    rw [value_showDocument_of_some hc, value_showDocument_of_some rfl]
    rcases hv.value_showDocument_cases p with ⟨file, range, text, hp, heq⟩ | ⟨-, heq⟩
    · have hv' : (h.reveal w.cwd file text range).Valid w.cwd := hv.reveal
      rw [heq, hv'.value_showDocument hp, hv.reveal_reveal]
    · rw [heq, heq]

end Client

namespace Session

variable {s : Session Server} {op : Op Server}

/-- The second delivery leaves the session as the first one did. -/
theorem session_again_of_direct (hs : s.Valid) (hd : op.direct? = some op)
    (hop : op.isTraffic = true) : ((s.step op).session.step op).session = (s.step op).session := by
  have of_client {c c' : Client Server} (h : c = c') : s.withClient c = s.withClient c' :=
    congrArg s.withClient h
  cases op
  case publish p => exact of_client (s.client.publish_again s.world p)
  case highlight highlights => exact of_client (s.client.highlight_again s.world.cwd highlights)
  case telemetry event => rfl
  case showSignature help file => exact of_client (s.client.showSignature_again s.world.cwd help file)
  case hideSignature => exact of_client s.client.hideSignature_again
  case showLocations locations => exact of_client (s.client.showLocations_again s.world locations)
  case showLinks links => exact of_client (s.client.showLinks_again s.world links)
  case showDocument p => exact of_client (congrArg Prod.fst (Client.showDocument_again hs p))
  case dispatch m => exact absurd hd (Op.direct?_ne_dispatch _ m)
  all_goals cases hop

theorem session_again (hs : s.Valid) (hop : op.isTraffic = true) :
    ((s.step op).session.step op).session = (s.step op).session := by
  cases hd : op.direct? with
  | none => rw [session_step_of_direct_none hd, session_step_of_direct_none hd]
  | some op' =>
    rw [session_step_of_direct hd, session_step_of_direct hd]
    exact session_again_of_direct hs (Op.direct?_of_direct hd) (Op.isTraffic_of_direct hd hop)

/-- A document that is shown can be shown again, and one that is not is not the next time. -/
theorem succeeds_again (hs : s.Valid) :
    (s.step op).session.succeeds op.direct? = s.succeeds op.direct? := by
  cases hd : op.direct? with
  | none => rfl
  | some op' =>
    rw [session_step_of_direct hd]
    cases op'
    case showDocument p => exact congrArg Prod.snd (Client.showDocument_again hs p)
    all_goals rfl

/-- Redelivery is harmless. In a reachable session what comes from a server, a message or a call,
leaves the client, its host and the world as they are if it comes a second time, and it is answered
as it was the first time. -/
theorem redelivery_of_reachable (hs : s.Reachable) (hop : op.isTraffic = true) :
    let once := s.step op
    let again := once.session.step op
    again.session = once.session ∧ again.answer = once.answer := by
  intro once again
  have hv := valid_of_reachable hs
  exact ⟨session_again hv hop, answer_congr hop (succeeds_again hv)⟩

/-- A message that opens a document at first and finds it open then. -/
theorem redelivery_of_reachable_request :
    let w : World := { cwd := .ofString "/", disk := ⟨[([[0x61]], .file [0x78])]⟩ }
    let s : Session Unit := Session.run ⟨{}, w⟩ [.attachHost (.ofSize 80 24)]
    let place (character : Int) : Json :=
      .obj [("line", .int 0), ("character", .int character)]
    let op : Op Unit := .dispatch
      { method := "window/showDocument", id := some (.number 1)
        params := some (.obj [("uri", .str "file:///a"),
          ("selection", .obj [("start", place 0), ("end", place 1)])]) }
    let once := s.step op
    let again := once.session.step op
    s.Reachable ∧ op.isTraffic = true ∧ once.answer = .responded (some ⟨.number 1, .shown true⟩) ∧
      again.session = once.session ∧ again.answer = once.answer := by
  intro w s place op once again
  have hs : s.Reachable := (Reachable.new {} w).attachNew 80 24
  exact ⟨hs, rfl, by decide +kernel, redelivery_of_reachable hs rfl⟩

end Session

end EditorSession
