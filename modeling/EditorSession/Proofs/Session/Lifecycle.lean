import EditorSession.Proofs.Session.Mirror

/-! What the end of a session and a change of host leave on display.

A client shows three panes through its host. An operation that renders a pane puts it in view, and
all others but those of the life cycle leave it as it was (`Client.SamePane`). To attach or detach a
host and to end the session change one side only, and nothing is rendered: the pane is in view
afterwards only if both sides happen to agree (`Session.Restores`). So the last such operation of a
run decides, unless the pane is rendered after it (`Session.inView_run_iff`). -/

namespace EditorSession

/-- What a client shows through its host beside editors. -/
inductive Pane where
  | diagnostics
  | results
  | signature
deriving DecidableEq, Repr

variable {Server : Type}

namespace Client

/-- What is on display is what the client knows: a host that is attached shows its groups and
results, and signature help is on display only with a host that shows its label. -/
def InView (c : Client Server) : Pane → Prop
  | .diagnostics => ∀ h, c.host = some h → h.diagnosticGroups = c.diagnostics.groups
  | .results => ∀ h, c.host = some h → h.searchResults = c.searchResults
  | .signature => ∀ shown, c.signature = some shown →
    ∃ h, c.host = some h ∧ h.signatureLabel = some shown.label.text

/-- Two clients agree on a pane, in what they know and in what their hosts show. -/
def SamePane (c c' : Client Server) : Pane → Prop
  | .diagnostics => c'.host.map Host.diagnosticGroups = c.host.map Host.diagnosticGroups ∧
    c'.diagnostics = c.diagnostics
  | .results => c'.host.map Host.searchResults = c.host.map Host.searchResults ∧
    c'.searchResults = c.searchResults
  | .signature => c'.host.map Host.signatureLabel = c.host.map Host.signatureLabel ∧
    c'.signature = c.signature

variable {c c' : Client Server} {pane : Pane}

theorem SamePane.refl (c : Client Server) (pane : Pane) : c.SamePane c pane := by
  cases pane <;> exact ⟨rfl, rfl⟩

theorem SamePane.inView_iff (h : c.SamePane c' pane) : c'.InView pane ↔ c.InView pane := by
  have list {α : Type} {f : Host → α} (hhost : c'.host.map f = c.host.map f) (a : α) :
      (∀ h, c'.host = some h → f h = a) ↔ ∀ h, c.host = some h → f h = a := by
    have hall (o : Option Host) :
        (∀ h, o = some h → f h = a) ↔ ∀ b, o.map f = some b → b = a := by
      cases o <;> simp
    rw [hall, hall, hhost]
  cases pane with
  | diagnostics =>
    simp only [InView, h.2]
    exact list h.1 _
  | results =>
    simp only [InView, h.2]
    exact list h.1 _
  | signature =>
    simp only [InView, h.2, ← Option.map_eq_some_iff, h.1]

/-- All panes are kept if only editors of the host change. -/
theorem SamePane.of_view (hhost : c'.host.map Host.view = c.host.map Host.view)
    (hd : c'.diagnostics = c.diagnostics) (hr : c'.searchResults = c.searchResults)
    (hs : c'.signature = c.signature) (pane : Pane) : c.SamePane c' pane := by
  have field {α : Type} {f : Host → α} (hf : ∀ h, f h.view = f h) :
      c'.host.map f = c.host.map f := by
    have hmap := congrArg (Option.map f) hhost
    simpa only [Option.map_map, Function.comp_def, hf] using hmap
  cases pane with
  | diagnostics => exact ⟨field fun _ => rfl, hd⟩
  | results => exact ⟨field fun _ => rfl, hr⟩
  | signature => exact ⟨field fun _ => rfl, hs⟩

theorem SamePane.of_host {h h' : Host} (hc : c.host = some h) (hv : h'.view = h.view)
    (pane : Pane) : c.SamePane { c with host := some h' } pane := by
  apply SamePane.of_view
  · rw [hc, Option.map_some, Option.map_some, hv]
  · rfl
  · rfl
  · rfl

end Client

/-- The operation shows a pane anew. -/
def Op.Renders (w : World) (op : Op Server) : Pane → Prop
  | .diagnostics => ∃ p e, op.publication? = some p ∧ p.effect? w = some e
  | .results => (∃ locations, op = .showLocations locations) ∨
    ∃ link links, op = .showLinks (link :: links)
  | .signature => (∃ help file, op = .showSignature help file) ∨ op = .hideSignature

/-- A message renders what the operation renders that it stands for. -/
theorem Op.Renders.of_direct {w : World} {op op' : Op Server} {pane : Pane}
    (hd : op.direct? = some op') (h : op'.Renders w pane) : op.Renders w pane := by
  rcases direct?_eq_some hd with rfl | ⟨_, rfl⟩ | ⟨_, rfl⟩ | ⟨_, rfl⟩ | ⟨_, rfl⟩
  · exact h
  all_goals
    cases pane with
    | diagnostics =>
      obtain ⟨p, e, hp, he⟩ := h
      exact ⟨p, e, (publication?_of_direct hd).trans hp, he⟩
    | results => rcases h with ⟨_, h⟩ | ⟨_, _, h⟩ <;> cases h
    | signature => rcases h with ⟨_, _, h⟩ | h <;> cases h

theorem Op.direct?_of_publication? {op : Op Server} {p : SparsePublication}
    (h : op.publication? = some p) : op.direct? = some (.publish p) := by
  unfold publication? at h
  split at h
  · next hd =>
    cases h
    exact hd
  · cases h

namespace Session

/-- Whatever is on display before, the pane is in view after the operation: it is rendered, or the
host and what the client knows agree at the end of a session or a change of host. -/
def Restores (s : Session Server) : Op Server → Pane → Prop
  | .attachHost h, .diagnostics => h.diagnosticGroups = s.client.diagnostics.groups
  | .attachHost h, .results => h.searchResults = s.client.searchResults
  | .attachHost h, .signature => ∀ shown, s.client.signature = some shown →
    h.signatureLabel = some shown.label.text
  | .detachHost, .signature => s.client.signature = none
  | .detachHost, _ => True
  | .endSession, .diagnostics => ∀ h, s.client.host = some h → h.diagnosticGroups = []
  | .endSession, .results => ∀ h, s.client.host = some h → h.searchResults = {}
  | .endSession, .signature => True
  | op, pane => op.Renders s.world pane

variable {s : Session Server} {op : Op Server} {pane : Pane}

theorem restores_iff_of_not_lifecycle (hl : op.isLifecycle = false) :
    s.Restores op pane ↔ op.Renders s.world pane := by
  cases op
  case attachHost => cases hl
  case detachHost => cases hl
  case endSession => cases hl
  all_goals rfl

theorem inView_step_iff_of_lifecycle (hl : op.isLifecycle = true) :
    (s.step op).session.client.InView pane ↔ s.Restores op pane := by
  cases op
  case attachHost h =>
    cases pane <;> simp [step, withClient, Client.attachHost, Client.InView, Restores]
  case detachHost =>
    cases pane with
    | diagnostics | results =>
      refine iff_of_true (fun _ hh => ?_) trivial
      cases hh
    | signature =>
      refine ⟨fun h => Option.eq_none_iff_forall_ne_some.mpr fun shown hs => ?_, fun hn _ hs => ?_⟩
      · obtain ⟨h', hh', -⟩ := h shown hs
        cases hh'
      · cases hs.symm.trans hn
  case endSession =>
    cases pane with
    | diagnostics => exact .rfl
    | results => exact .rfl
    | signature =>
      refine iff_of_true (fun _ hs => ?_) trivial
      cases hs
  all_goals cases hl

/-! ### Operations that leave the host attached -/

theorem inView_publish {p : SparsePublication} {e : Path × List Diagnostic}
    (he : p.effect? s.world = some e) :
    (s.step (.publish p)).session.client.InView .diagnostics := by
  change (s.client.publish s.world p).value.InView .diagnostics
  rw [Client.value_publish_of_some _ he]
  intro h hh
  obtain ⟨h', -, rfl⟩ := Option.map_eq_some_iff.mp hh
  rfl

theorem inView_showLocations (locations : List SparseLocation) :
    (s.step (.showLocations locations)).session.client.InView .results := by
  change (s.client.showLocations s.world locations).value.InView .results
  intro h hh
  cases hc : s.client.host with
  | none =>
    rw [Client.value_showLocations_of_none hc] at hh
    cases hc.symm.trans hh
  | some h' =>
    rw [Client.value_showLocations_of_some hc] at hh ⊢
    cases hh
    rfl

theorem inView_hideSignature (c : Client Server) : c.hideSignature.InView .signature := nofun

theorem inView_showSignature (help : Option SignatureHelp) (file : Path) :
    (s.step (.showSignature help file)).session.client.InView .signature := by
  change (s.client.showSignature s.world.cwd help file).value.InView .signature
  rcases s.client.value_showSignature_cases s.world.cwd help file with
    hv | ⟨h, e, given, signature, label, -, -, -, -, -, hv⟩ <;> rw [hv]
  · exact inView_hideSignature s.client
  · intro shown hs
    cases hs
    exact ⟨_, rfl, rfl⟩

theorem inView_of_renders (h : op.Renders s.world pane) :
    (s.step op).session.client.InView pane := by
  cases pane with
  | diagnostics =>
    obtain ⟨p, e, hp, he⟩ := h
    rw [session_step_of_direct (Op.direct?_of_publication? hp)]
    exact inView_publish he
  | results =>
    rcases h with ⟨locations, rfl⟩ | ⟨link, links, rfl⟩
    · exact inView_showLocations locations
    · exact inView_showLocations _
  | signature =>
    rcases h with ⟨help, file, rfl⟩ | rfl
    · exact inView_showSignature help file
    · exact inView_hideSignature s.client

/-! ### Operations that leave a pane as it was -/

theorem samePane_changeHost {f : Host → Logged Host} (hf : ∀ h, (f h).value.view = h.view)
    (pane : Pane) : s.client.SamePane (s.changeHost f).session.client pane := by
  rcases s.changeHost_cases f with heq | ⟨h, hh, heq⟩ <;> rw [heq]
  · exact .refl _ pane
  · exact .of_host hh (hf h) pane

theorem samePane_changeEditor (file : Option Path) (f : Editor → Editor) (pane : Pane) :
    s.client.SamePane (s.changeEditor file f).session.client pane := by
  rcases s.changeEditor_cases file f with heq | ⟨h, i, hh, heq⟩ <;> rw [heq]
  · exact .refl _ pane
  · exact .of_host hh (h.view_modifyEditor i f) pane

theorem samePane_publish {p : SparsePublication}
    (h : pane = .diagnostics → p.effect? s.world = none) :
    s.client.SamePane (s.step (.publish p)).session.client pane := by
  change s.client.SamePane (s.client.publish s.world p).value pane
  cases he : p.effect? s.world with
  | none =>
    rw [Client.value_publish_of_none _ he]
    cases pane with
    | diagnostics | results | signature => exact ⟨Option.map_map .., rfl⟩
  | some e =>
    rw [Client.value_publish_of_some _ he]
    cases pane with
    | diagnostics => cases he.symm.trans (h rfl)
    | results | signature => exact ⟨Option.map_map .., rfl⟩

theorem samePane_hideSignature (c : Client Server) (h : pane ≠ .signature) :
    c.SamePane c.hideSignature pane := by
  cases pane with
  | diagnostics | results => exact ⟨Option.map_map .., rfl⟩
  | signature => exact (h rfl).elim

theorem samePane_showSignature (help : Option SignatureHelp) (file : Path)
    (h : pane ≠ .signature) :
    s.client.SamePane (s.step (.showSignature help file)).session.client pane := by
  change s.client.SamePane (s.client.showSignature s.world.cwd help file).value pane
  rcases s.client.value_showSignature_cases s.world.cwd help file with
    hv | ⟨host, e, given, signature, label, hc, -, -, -, -, hv⟩ <;> rw [hv]
  · exact samePane_hideSignature s.client h
  · cases pane with
    | diagnostics | results =>
      refine ⟨?_, rfl⟩
      rw [hc]
      rfl
    | signature => exact (h rfl).elim

theorem samePane_showLocations (locations : List SparseLocation) (h : pane ≠ .results) :
    s.client.SamePane (s.step (.showLocations locations)).session.client pane := by
  change s.client.SamePane (s.client.showLocations s.world locations).value pane
  cases hc : s.client.host with
  | none =>
    rw [Client.value_showLocations_of_none hc]
    exact .refl _ pane
  | some host =>
    rw [Client.value_showLocations_of_some hc]
    cases pane with
    | diagnostics | signature =>
      refine ⟨?_, rfl⟩
      rw [hc]
      rfl
    | results => exact (h rfl).elim

theorem samePane_showDocument (p : SparseShowRequest) (pane : Pane) :
    s.client.SamePane (s.step (.showDocument p)).session.client pane := by
  change s.client.SamePane (s.client.showDocument s.world p).value.1 pane
  cases hc : s.client.host with
  | none =>
    rw [Client.value_showDocument_of_none hc]
    exact .refl _ pane
  | some host =>
    rw [Client.value_showDocument_of_some hc]
    exact .of_host hc (host.view_showDocument s.world p) pane

theorem samePane_highlight (highlights : Highlights) (pane : Pane) :
    s.client.SamePane (s.step (.highlight highlights)).session.client pane := by
  change s.client.SamePane (s.client.highlight s.world.cwd highlights).value pane
  rw [Client.value_highlight]
  split
  · apply Client.SamePane.of_view
    · exact Option.map_map ..
    · rfl
    · rfl
    · rfl
  · exact .refl _ pane

theorem samePane_of_direct (hop : op.direct? = some op) (hl : op.isLifecycle = false)
    (h : ¬op.Renders s.world pane) : s.client.SamePane (s.step op).session.client pane := by
  cases op
  case attachHost => cases hl
  case detachHost => cases hl
  case endSession => cases hl
  case dispatch m => exact absurd hop (Op.direct?_ne_dispatch _ m)
  case openEditor => exact samePane_changeHost (fun h => h.view_openEditor _ _) pane
  case openAndSelect => exact samePane_changeHost (fun h => h.view_openAndSelect _ _ _) pane
  case setCaret => exact samePane_changeEditor _ _ pane
  case selectRegion => exact samePane_changeEditor _ _ pane
  case publish p =>
    refine samePane_publish fun hp => Option.eq_none_iff_forall_ne_some.mpr fun e he => ?_
    subst hp
    exact h ⟨p, e, rfl, he⟩
  case highlight highlights => exact samePane_highlight highlights pane
  case showSignature help file =>
    refine samePane_showSignature help file fun hp => ?_
    subst hp
    exact h (.inl ⟨help, file, rfl⟩)
  case hideSignature =>
    refine samePane_hideSignature s.client fun hp => ?_
    subst hp
    exact h (.inr rfl)
  case showLocations locations =>
    refine samePane_showLocations locations fun hp => ?_
    subst hp
    exact h (.inl ⟨locations, rfl⟩)
  case showLinks links =>
    cases links with
    | nil => exact .refl _ pane
    | cons link links =>
      refine samePane_showLocations _ fun hp => ?_
      subst hp
      exact h (.inr ⟨link, links, rfl⟩)
  case showDocument p => exact samePane_showDocument p pane
  all_goals exact .refl _ pane

theorem samePane_of_not_renders (hl : op.isLifecycle = false) (h : ¬op.Renders s.world pane) :
    s.client.SamePane (s.step op).session.client pane := by
  refine step_of_direct (P := fun after => s.client.SamePane after.client pane)
    (fun _ => .refl _ pane) fun op' hd => ?_
  refine samePane_of_direct (Op.direct?_of_direct hd) ?_ (mt (Op.Renders.of_direct hd) h)
  rcases Op.direct?_eq_some hd with rfl | ⟨_, rfl⟩ | ⟨_, rfl⟩ | ⟨_, rfl⟩ | ⟨_, rfl⟩
  · exact hl
  all_goals rfl

/-- A pane is in view after an operation exactly if the operation restores it, or leaves it as it
was and it has been in view before. -/
theorem inView_step_iff (s : Session Server) (op : Op Server) (pane : Pane) :
    (s.step op).session.client.InView pane ↔
      s.Restores op pane ∨ (op.isLifecycle = false ∧ s.client.InView pane) := by
  cases hl : op.isLifecycle with
  | true => simp [inView_step_iff_of_lifecycle hl]
  | false =>
    rw [restores_iff_of_not_lifecycle hl]
    by_cases h : op.Renders s.world pane
    · exact iff_of_true (inView_of_renders h) (.inl h)
    · simp [(samePane_of_not_renders hl h).inView_iff, h]

/-- An operation of the run restores the pane, and after it no host is attached or detached and no
session ended. -/
def RestoredBy (s : Session Server) (ops : List (Op Server)) (pane : Pane) : Prop :=
  ∃ before op after, ops = before ++ op :: after ∧ (∀ o ∈ after, o.isLifecycle = false) ∧
    (s.run before).Restores op pane

theorem restoredBy_concat_iff {ops : List (Op Server)} :
    s.RestoredBy (ops ++ [op]) pane ↔
      (s.run ops).Restores op pane ∨ (op.isLifecycle = false ∧ s.RestoredBy ops pane) := by
  constructor
  · rintro ⟨before, op', after, heq, hafter, hop⟩
    rcases eq_or_eq_concat heq with ⟨rfl, rfl, rfl⟩ | ⟨later, rfl, rfl⟩
    · exact .inl hop
    · obtain ⟨hlater, hl⟩ := List.forall_mem_append.mp hafter
      exact .inr ⟨hl op List.mem_cons_self, before, op', later, rfl, hlater, hop⟩
  · rintro (hop | ⟨hl, before, op', after, rfl, hafter, hop⟩)
    · exact ⟨ops, op, [], rfl, List.forall_mem_nil _, hop⟩
    · refine ⟨before, op', after ++ [op], by simp, ?_, hop⟩
      exact List.forall_mem_append.mpr ⟨hafter, List.forall_mem_singleton.mpr hl⟩

/-- A pane is in view after a run exactly if it has been restored for good, or the run has no
operation of the life cycle and the pane has been in view before. -/
theorem inView_run_iff_restoredBy (s : Session Server) (ops : List (Op Server)) (pane : Pane) :
    (s.run ops).client.InView pane ↔ s.RestoredBy ops pane ∨
      ((∀ op ∈ ops, op.isLifecycle = false) ∧ s.client.InView pane) := by
  induction ops using List.reverseRecOn with
  | nil =>
    have hnone : ¬s.RestoredBy [] pane := by
      rintro ⟨before, op, after, heq, -⟩
      exact List.append_ne_nil_of_right_ne_nil _ (List.cons_ne_nil _ _) heq.symm
    simp [hnone]
  | append_singleton ops op ih =>
    rw [run_append, run_cons, run_nil, inView_step_iff, ih, restoredBy_concat_iff,
      List.forall_mem_append, List.forall_mem_singleton]
    tauto

theorem inView_new (connection : Connection Server) (pane : Pane) :
    ({ connection } : Client Server).InView pane := by
  cases pane with
  | diagnostics | results | signature =>
    intro _ h
    cases h

/-- All panes are in view at all times of a run, if and only if its operations of the life cycle
restore them. -/
theorem forall_inView_iff (hs : ∀ pane, s.client.InView pane) {ops : List (Op Server)} :
    (∀ before after, ops = before ++ after → ∀ pane, (s.run before).client.InView pane) ↔
      ∀ before op after, ops = before ++ op :: after → op.isLifecycle = true →
        ∀ pane, (s.run before).Restores op pane := by
  constructor
  · intro h before op after heq hl pane
    have hview := h (before ++ [op]) after (by simp [heq]) pane
    rw [run_append, run_cons, run_nil] at hview
    exact (inView_step_iff_of_lifecycle hl).mp hview
  · intro h before
    induction before using List.reverseRecOn with
    | nil => exact fun _ _ => hs
    | append_singleton before op ih =>
      intro after heq pane
      rw [List.append_assoc, List.singleton_append] at heq
      rw [run_append, run_cons, run_nil, inView_step_iff]
      cases hl : op.isLifecycle with
      | true => exact .inl (h before op after heq hl pane)
      | false => exact .inr ⟨rfl, ih _ heq pane⟩

end Session

/-- The lists of the host are empty, there is no popup, and no editor has diagnostics. -/
structure Host.ShowsNothing (h : Host) : Prop where
  groups : h.diagnosticGroups = []
  results : h.searchResults = {}
  label : h.signatureLabel = none
  position : h.signaturePosition = none
  editors : ∀ e ∈ h.editors, e.diagnostics = []

namespace Session

/-- After a run of a new client a pane is in view exactly if nothing of the life cycle has happened,
or the pane has been restored since by being rendered, or because both sides agreed. The end of a
session leaves the host alone. So if all panes were in view, the host shows nothing afterwards only
if the session had nothing on display. -/
theorem inView_run_iff (connection : Connection Server) (w : World) (ops : List (Op Server)) :
    let start : Session Server := ⟨{ connection }, w⟩
    let s := start.run ops
    (∀ pane, s.client.InView pane ↔
      start.RestoredBy ops pane ∨ ∀ op ∈ ops, op.isLifecycle = false) ∧
    ((∀ before after, ops = before ++ after → ∀ pane, (start.run before).client.InView pane) ↔
      ∀ before op after, ops = before ++ op :: after → op.isLifecycle = true →
        ∀ pane, (start.run before).Restores op pane) ∧
    ∀ h, s.client.host = some h →
      (s.step .endSession).session.client.host = some h ∧
      ((∀ pane, s.client.InView pane) → h.ShowsNothing →
        s.client.diagnostics.groups = [] ∧ s.client.searchResults = {} ∧
        s.client.signature = none) := by
  intro start s
  have hstart : ∀ pane, start.client.InView pane := inView_new connection
  refine ⟨fun pane => ?_, forall_inView_iff hstart, fun h hh => ⟨hh, fun hview hnothing => ?_⟩⟩
  · rw [inView_run_iff_restoredBy, and_iff_left (hstart pane)]
  · have hsignature : s.client.signature = none := by
      refine Option.eq_none_iff_forall_ne_some.mpr fun shown hs => ?_
      obtain ⟨h', hh', hlabel⟩ := hview .signature shown hs
      cases hh.symm.trans hh'
      cases hnothing.label.symm.trans hlabel
    exact ⟨(hview .diagnostics h hh).symm.trans hnothing.groups,
      (hview .results h hh).symm.trans hnothing.results, hsignature⟩

/-- A diagnostic, a signature and a result are still on display after the end of their session. -/
theorem not_showsNothing_endSession :
    let file : Url := { scheme := "file", authority := none, path := .rooted ["a"] }
    let help : SignatureHelp :=
      { signatures := [{ label := "f(x)", parameters := some [{ label := .text "x" }] }] }
    let ops : List (Op Unit) :=
      [.attachHost (.ofSize 80 24), .openEditor (.ofString "/a") "f(x)",
        .publish { uri := some file, diagnostics := some [{ range := {}, message := "unused" }] },
        .showSignature (some help) (.ofString "/a"),
        .showLocations [{ uri := some file, range := some {} }], .endSession]
    let w : World := { cwd := .ofString "/", disk := ⟨[([[0x61]], .file [])]⟩ }
    let c := (Session.run ⟨{}, w⟩ ops).client
    ∃ h, c.host = some h ∧ ¬h.ShowsNothing ∧ h.signatureLabel = some "f(x)" ∧
      h.signaturePosition.isSome = true ∧ h.editors.map (·.diagnostics.length) = [1] ∧
      ¬c.InView .diagnostics ∧ ¬c.InView .results := by
  intro file help ops w c
  obtain ⟨h, hh⟩ : ∃ h, c.host = some h := ⟨_, rfl⟩
  have hgroups : (c.host.map (·.diagnosticGroups.length)) = some 1 := by decide +kernel
  have hresults : (c.host.map (·.searchResults.size)) = some 1 := by decide +kernel
  have hlabel : c.host.map (·.signatureLabel) = some (some "f(x)") := by decide +kernel
  have hposition : c.host.map (·.signaturePosition.isSome) = some true := by decide +kernel
  have heditors : c.host.map (·.editors.map (·.diagnostics.length)) = some [1] := by decide +kernel
  rw [hh, Option.map_some, Option.some.injEq] at hgroups hresults hlabel hposition heditors
  refine ⟨h, hh, fun hn => ?_, hlabel, hposition, heditors, fun hn => ?_, fun hn => ?_⟩
  · cases hn.label.symm.trans hlabel
  · rw [hn h hh] at hgroups
    cases hgroups
  · rw [hn h hh] at hresults
    cases hresults

end Session

end EditorSession
