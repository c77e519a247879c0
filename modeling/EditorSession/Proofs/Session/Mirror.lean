import EditorSession.Proofs.Session.Effects
import Mathlib.Data.List.Induction

/-! A host shows what its client knows.

`Client.Mirrors` says that the lists and the popup of a host are those of the client. It depends on
the host apart from its editors (`Host.view`), so that what happens to editors and documents keeps
it. Every operation that leaves the host attached and the session open keeps it as well
(`Session.mirrored_step`), and the flag of the last publication with it. -/

namespace EditorSession

namespace Host

/-- A host apart from its editors. -/
def view (h : Host) : Host := { h with editors := [], active := none }

theorem view_modifyEditor (h : Host) (i : Nat) (f : Editor → Editor) :
    (h.modifyEditor i f).view = h.view := rfl

theorem view_editFile (h : Host) (cwd file : Path) (f : Editor → Editor) :
    (h.editFile cwd file f).view = h.view := rfl

theorem view_openEditor (h : Host) (cwd : Path) (e : Editor) :
    (h.openEditor cwd e).view = h.view := by
  unfold openEditor
  split <;> rfl

theorem view_openAndSelect (h : Host) (w : World) (file : Path) (r : Range) :
    (h.openAndSelect w file r).value.view = h.view := by
  unfold openAndSelect
  split
  · rfl
  · split
    · exact view_openEditor h w.cwd _
    · rfl

theorem view_present (h : Host) (w : World) (file : Path) (r : Range) :
    (h.present w file r).value.view = h.view := by
  unfold present
  split
  · split
    · rfl
    · exact view_openAndSelect h w file r
  · exact view_openAndSelect h w file r

theorem view_showDocument (h : Host) (w : World) (p : SparseShowRequest) :
    (h.showDocument w p).value.1.view = h.view := by
  unfold showDocument
  split
  · rfl
  · next file range _ => exact view_present h w file range

end Host

variable {Server : Type}

namespace Client

/-- The lists and the popup of `h` are those of the client. -/
structure Mirrors (c : Client Server) (h : Host) : Prop where
  diagnostics : h.diagnosticGroups = c.diagnostics.groups
  results : h.searchResults = c.searchResults
  label : h.signatureLabel = c.signature.map (·.label.text)
  position : h.signaturePosition.isSome = h.signatureLabel.isSome

variable {c : Client Server} {h : Host}

theorem Mirrors.congr (hm : c.Mirrors h) {h' : Host} (hv : h'.view = h.view) : c.Mirrors h' where
  diagnostics := (congrArg Host.diagnosticGroups hv).trans hm.diagnostics
  results := (congrArg Host.searchResults hv).trans hm.results
  label := (congrArg Host.signatureLabel hv).trans hm.label
  position := by
    have hl : h'.signatureLabel = h.signatureLabel := congrArg (·.signatureLabel) hv
    have hp : h'.signaturePosition = h.signaturePosition :=
      congrArg (·.signaturePosition) hv
    rw [hl, hp, hm.position]

theorem Mirrors.hideSignature (hm : c.Mirrors h) : c.hideSignature.Mirrors h.hideSignature where
  diagnostics := hm.diagnostics
  results := hm.results
  label := rfl
  position := rfl

theorem Mirrors.presentDiagnostics (hm : c.Mirrors h) (cwd : Path) (store : DiagnosticStore)
    (e : Path × List Diagnostic) :
    { c with diagnostics := store }.Mirrors (h.presentDiagnostics cwd store e) where
  diagnostics := rfl
  results := hm.results
  label := hm.label
  position := hm.position

end Client

/-- Whether an operation attaches or detaches a host, or ends the session. -/
def Op.isLifecycle : Op Server → Bool
  | attachHost _ | detachHost | endSession => true
  | _ => false

/-- Whether the publications of operations, if there are any, end with an empty one. -/
def Op.endsEmpty (ops : List (Op Server)) : Bool :=
  match (ops.filterMap publication?).getLast? with
  | some p => p.list.isEmpty
  | none => true

namespace Session

/-- The client has a host that shows what it knows, with `empty` as the flag of the last
publication. -/
def Mirrored (s : Session Server) (empty : Bool) : Prop :=
  ∃ h, s.client.host = some h ∧ s.client.Mirrors h ∧ h.diagnosticsEmpty = empty

variable {s : Session Server} {empty : Bool}

theorem Mirrored.of_view {c : Client Server} {h h' : Host} (hm : c.Mirrors h)
    (he : h.diagnosticsEmpty = empty) (hv : h'.view = h.view) (w : World) :
    Mirrored ⟨{ c with host := some h' }, w⟩ empty := by
  obtain ⟨hd, hr, hl, hp⟩ := hm.congr hv
  exact ⟨h', rfl, ⟨hd, hr, hl, hp⟩, (congrArg (·.diagnosticsEmpty) hv).trans he⟩

theorem Mirrored.changeHost (hs : s.Mirrored empty) {f : Host → Logged Host}
    (hf : ∀ h, (f h).value.view = h.view) : (s.changeHost f).session.Mirrored empty := by
  rcases s.changeHost_cases f with heq | ⟨h, hh, heq⟩ <;> rw [heq]
  · exact hs
  · obtain ⟨h', hh', hm, he⟩ := hs
    cases hh.symm.trans hh'
    exact .of_view hm he (hf h) s.world

theorem Mirrored.changeEditor (hs : s.Mirrored empty) (file : Option Path) (f : Editor → Editor) :
    (s.changeEditor file f).session.Mirrored empty := by
  rcases s.changeEditor_cases file f with heq | ⟨h, i, hh, heq⟩ <;> rw [heq]
  · exact hs
  · obtain ⟨h', hh', hm, he⟩ := hs
    cases hh.symm.trans hh'
    exact .of_view hm he (h.view_modifyEditor i f) s.world

theorem Mirrored.publish (hs : s.Mirrored empty) (p : SparsePublication) :
    (s.step (.publish p)).session.Mirrored p.list.isEmpty := by
  obtain ⟨h, hh, hm, -⟩ := hs
  change Mirrored ⟨(s.client.publish s.world p).value, s.world⟩ p.list.isEmpty
  cases he : p.effect? s.world with
  | none =>
    rw [Client.value_publish_of_none _ he, hh]
    exact ⟨_, rfl, ⟨hm.diagnostics, hm.results, hm.label, hm.position⟩, rfl⟩
  | some e =>
    have hempty : p.list.isEmpty = false := by
      rw [Client.list_of_effect? he]
      exact List.isEmpty_eq_false_iff.mpr (Client.ne_nil_of_effect? he)
    rw [Client.value_publish_of_some _ he, hh, hempty]
    obtain ⟨hd, hr, hl, hp⟩ := hm.presentDiagnostics s.world.cwd
      (s.client.diagnostics.replace e.1 e.2) e
    exact ⟨_, rfl, ⟨hd, hr, hl, hp⟩, rfl⟩

theorem Mirrored.hideSignature (hs : s.Mirrored empty) :
    Mirrored ⟨s.client.hideSignature, s.world⟩ empty := by
  obtain ⟨h, hh, hm, he⟩ := hs
  refine ⟨h.hideSignature, ?_, hm.hideSignature, he⟩
  change s.client.host.map Host.hideSignature = some h.hideSignature
  rw [hh, Option.map_some]

theorem Mirrored.showSignature (hs : s.Mirrored empty) (help : Option SignatureHelp) (file : Path) :
    (s.step (.showSignature help file)).session.Mirrored empty := by
  change Mirrored ⟨(s.client.showSignature s.world.cwd help file).value, s.world⟩ empty
  rcases s.client.value_showSignature_cases s.world.cwd help file with
    hv | ⟨h', e, given, signature, label, hh', -, -, -, -, hv⟩
  · rw [hv]
    exact hs.hideSignature
  · obtain ⟨h, hh, hm, he⟩ := hs
    rw [hh] at hh'
    cases hh'
    rw [hv]
    exact ⟨_, rfl, ⟨hm.diagnostics, hm.results, rfl, rfl⟩, he⟩

theorem Mirrored.showLocations (hs : s.Mirrored empty) (locations : List SparseLocation) :
    (s.step (.showLocations locations)).session.Mirrored empty := by
  obtain ⟨h, hh, hm, he⟩ := hs
  change Mirrored ⟨(s.client.showLocations s.world locations).value, s.world⟩ empty
  rw [Client.value_showLocations_of_some hh]
  exact ⟨_, rfl, ⟨hm.diagnostics, rfl, hm.label, hm.position⟩, he⟩

theorem Mirrored.showLinks (hs : s.Mirrored empty) (links : List SparseLink) :
    (s.step (.showLinks links)).session.Mirrored empty := by
  change Mirrored ⟨(s.client.showLinks s.world links).value, s.world⟩ empty
  rcases s.client.value_showLinks_cases s.world links with heq | ⟨locations, heq⟩ <;> rw [heq]
  · exact hs
  · exact hs.showLocations locations

theorem Mirrored.showDocument (hs : s.Mirrored empty) (p : SparseShowRequest) :
    (s.step (.showDocument p)).session.Mirrored empty := by
  obtain ⟨h, hh, hm, he⟩ := hs
  change Mirrored ⟨(s.client.showDocument s.world p).value.1, s.world⟩ empty
  rw [Client.value_showDocument_of_some hh]
  exact .of_view hm he (h.view_showDocument s.world p) s.world

theorem Mirrored.highlight (hs : s.Mirrored empty) (highlights : Highlights) :
    (s.step (.highlight highlights)).session.Mirrored empty := by
  change Mirrored ⟨(s.client.highlight s.world.cwd highlights).value, s.world⟩ empty
  rw [Client.value_highlight]
  split
  · next file _ =>
    obtain ⟨h, hh, hm, he⟩ := hs
    rw [hh]
    exact .of_view hm he (h.view_editFile s.world.cwd file _) s.world
  · exact hs

theorem mirrored_step_of_direct {op : Op Server} (hop : op.direct? = some op)
    (hl : op.isLifecycle = false) (hs : s.Mirrored empty) :
    (s.step op).session.Mirrored ((op.publication?.map (·.list.isEmpty)).getD empty) := by
  cases op
  case attachHost => cases hl
  case detachHost => cases hl
  case endSession => cases hl
  case dispatch m => exact absurd hop (Op.direct?_ne_dispatch _ m)
  case openEditor => exact hs.changeHost fun h => h.view_openEditor _ _
  case openAndSelect => exact hs.changeHost fun h => h.view_openAndSelect _ _ _
  case setCaret => exact hs.changeEditor _ _
  case selectRegion => exact hs.changeEditor _ _
  case publish p => exact hs.publish p
  case highlight highlights => exact hs.highlight highlights
  case showSignature help file => exact hs.showSignature help file
  case hideSignature => exact hs.hideSignature
  case showLocations locations => exact hs.showLocations locations
  case showLinks links => exact hs.showLinks links
  case showDocument p => exact hs.showDocument p
  all_goals
    obtain ⟨h, hh, hm, he⟩ := hs
    exact ⟨h, hh, ⟨hm.diagnostics, hm.results, hm.label, hm.position⟩, he⟩

theorem mirrored_step {op : Op Server} (hl : op.isLifecycle = false) (hs : s.Mirrored empty) :
    (s.step op).session.Mirrored ((op.publication?.map (·.list.isEmpty)).getD empty) := by
  refine step_of_direct
    (P := fun after => after.Mirrored ((op.publication?.map (·.list.isEmpty)).getD empty))
    (fun hd => ?_) fun op' hd => ?_
  · rw [Op.publication?_of_direct_none hd]
    exact hs
  · rw [Op.publication?_of_direct hd]
    refine mirrored_step_of_direct (Op.direct?_of_direct hd) ?_ hs
    rcases Op.direct?_eq_some hd with rfl | ⟨_, rfl⟩ | ⟨_, rfl⟩ | ⟨_, rfl⟩ | ⟨_, rfl⟩
    · exact hl
    all_goals rfl

theorem mirrored_run {ops : List (Op Server)} (hl : ∀ op ∈ ops, op.isLifecycle = false)
    (hs : s.Mirrored true) : (s.run ops).Mirrored (Op.endsEmpty ops) := by
  induction ops using List.reverseRecOn with
  | nil => exact hs
  | append_singleton ops op ih =>
    have hops := ih fun op' h => hl op' (List.mem_append_left _ h)
    have hstep := mirrored_step (hl op (List.mem_append_right _ List.mem_cons_self)) hops
    rw [run_append, run_cons, run_nil]
    have hflag : Op.endsEmpty (ops ++ [op]) =
        (op.publication?.map (·.list.isEmpty)).getD (Op.endsEmpty ops) := by
      rw [Op.endsEmpty, List.filterMap_append]
      cases hp : op.publication? with
      | none => simp [hp, Op.endsEmpty]
      | some p => simp [hp]
    rw [hflag]
    exact hstep

end Session

theorem Op.endsEmpty_iff {ops : List (Op Server)} :
    Op.endsEmpty ops = true ↔ ops.filterMap Op.publication? = [] ∨
      ∃ p, (ops.filterMap Op.publication?).getLast? = some p ∧
        (p.diagnostics = none ∨ p.diagnostics = some []) := by
  unfold endsEmpty
  split
  · next p hp =>
    have hne : ops.filterMap publication? ≠ [] := fun hnil => by
      rw [hnil] at hp
      cases hp
    obtain ⟨uri, list, version⟩ := p
    simp only [hp, hne, false_or, Option.some.injEq, exists_eq_left']
    cases list <;> simp [SparsePublication.list]
  · next hp => simp [List.getLast?_eq_none_iff.mp hp]

namespace Session

/-- A host that was fresh at the beginning of a run, and stays attached, shows what the client knows
after any number of operations. -/
theorem mirrors_run (connection : Connection Server) (w : World) (columns rows : UInt16)
    (ops : List (Op Server)) (hl : ∀ op ∈ ops, op.isLifecycle = false) :
    let start : Client Server := { connection }
    let c := (Session.run ⟨start.attachHost (.ofSize columns rows), w⟩ ops).client
    ∃ h, c.host = some h ∧
      h.diagnosticGroups = c.diagnostics.groups ∧
      h.searchResults = c.searchResults ∧
      (∀ text, h.signatureLabel = some text ↔
        ∃ shown, c.signature = some shown ∧ text = shown.label.text) ∧
      h.signaturePosition.isSome = h.signatureLabel.isSome ∧
      (h.diagnosticsEmpty = true ↔ ops.filterMap Op.publication? = [] ∨
        ∃ p, (ops.filterMap Op.publication?).getLast? = some p ∧
          (p.diagnostics = none ∨ p.diagnostics = some [])) := by
  intro start c
  have hstart : Mirrored ⟨start.attachHost (.ofSize columns rows), w⟩ true :=
    ⟨_, rfl, ⟨rfl, rfl, rfl, rfl⟩, rfl⟩
  obtain ⟨h, hh, hm, he⟩ := mirrored_run hl hstart
  refine ⟨h, hh, hm.diagnostics, hm.results, fun text => ?_, hm.position, ?_⟩
  · have hlabel : h.signatureLabel = c.signature.map (·.label.text) := hm.label
    rw [hlabel, Option.map_eq_some_iff]
    simp only [eq_comm]
  · rw [he]
    exact Op.endsEmpty_iff

/-- A list of diagnostics, a call of signature help and a publication without a list. -/
theorem mirrors_run_publish :
    let file : Url := { scheme := "file", authority := none, path := .rooted ["a"] }
    let ops : List (Op Unit) :=
      [.publish { uri := some file, diagnostics := some [{ range := {}, message := "unused" }] },
        .showSignature none (.ofString "/a"), .publish { uri := some file }]
    let w : World := { cwd := .ofString "/", disk := ⟨[([[0x61]], .file [])]⟩ }
    let c := (Session.run ⟨Client.attachHost {} (.ofSize 80 24), w⟩ ops).client
    (∀ op ∈ ops, op.isLifecycle = false) ∧ ∃ h, c.host = some h ∧
      h.diagnosticGroups = c.diagnostics.groups ∧
      h.searchResults = c.searchResults ∧
      (∀ text, h.signatureLabel = some text ↔
        ∃ shown, c.signature = some shown ∧ text = shown.label.text) ∧
      h.signaturePosition.isSome = h.signatureLabel.isSome ∧
      (h.diagnosticsEmpty = true ↔ ops.filterMap Op.publication? = [] ∨
        ∃ p, (ops.filterMap Op.publication?).getLast? = some p ∧
          (p.diagnostics = none ∨ p.diagnostics = some [])) := by
  intro file ops w c
  have hl : ∀ op ∈ ops, op.isLifecycle = false := by simp [ops, Op.isLifecycle]
  exact ⟨hl, mirrors_run {} w 80 24 ops hl⟩

end Session

end EditorSession
