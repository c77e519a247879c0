import EditorSession.Proofs.Hosts.Reveal
import EditorSession.Session

/-! What the operations of a client leave, without their notices.

A publication has an effect on the store if it counts: `SparsePublication.effect?` is the list that
it puts there, and the file. A message that is dispatched stands for an operation of the client, or
for none (`Message.op?`), so that what all operations keep has to be looked at for the other
operations only (`Session.step_of_direct`). -/

namespace EditorSession

/-- What a publication puts into the store: its list, if there is one that is not empty, and the
regular file that its URI names at the time. -/
def SparsePublication.effect? (w : World) (p : SparsePublication) :
    Option (Path × List Diagnostic) :=
  match p.diagnostics, p.uri with
  | some (d :: ds), some uri => (w.resolve uri).toOption.map fun file => (file, d :: ds)
  | _, _ => none

/-- The host with a list that is new in the store: all groups anew, and the list in the editor of
its file. -/
def Host.presentDiagnostics (h : Host) (cwd : Path) (store : DiagnosticStore)
    (e : Path × List Diagnostic) : Host :=
  { h.editFile cwd e.1 (fun editor => { editor with diagnostics := e.2 }) with
    diagnosticsEmpty := false
    diagnosticGroups := store.groups }

namespace Client

variable {Server : Type}

theorem publishTarget?_eq (w : World) (p : SparsePublication) :
    publishTarget? w p = (p.effect? w).map Prod.fst := by
  obtain ⟨uri, list, version⟩ := p
  rcases list with _ | _ | ⟨d, ds⟩
  · rfl
  · rfl
  · cases uri with
    | none => rfl
    | some uri =>
      simp [publishTarget?, SparsePublication.effect?, SparsePublication.list, Function.comp_def]

theorem list_of_effect? {w : World} {p : SparsePublication} {e : Path × List Diagnostic}
    (h : p.effect? w = some e) : p.list = e.2 := by
  unfold SparsePublication.effect? at h
  split at h
  · next d ds uri hd _ =>
    obtain ⟨file, _, rfl⟩ := Option.map_eq_some_iff.mp h
    simp [SparsePublication.list, hd]
  · cases h

theorem ne_nil_of_effect? {w : World} {p : SparsePublication} {e : Path × List Diagnostic}
    (h : p.effect? w = some e) : e.2 ≠ [] := by
  unfold SparsePublication.effect? at h
  split at h
  · obtain ⟨file, _, rfl⟩ := Option.map_eq_some_iff.mp h
    exact List.cons_ne_nil _ _
  · cases h

theorem get?_replace_self (s : DiagnosticStore) (file : Path) (diagnostics : List Diagnostic) :
    (s.replace file diagnostics).get? file = some diagnostics :=
  s.files.find?_alter_of_same _ (Path.Same.refl file)

theorem value_publish_of_none (c : Client Server) {w : World} {p : SparsePublication}
    (h : p.effect? w = none) :
    (c.publish w p).value =
      { c with host := c.host.map fun h => { h with diagnosticsEmpty := p.list.isEmpty } } := by
  unfold publish
  rw [publishTarget?_eq, h]
  rfl

theorem value_publish_of_some (c : Client Server) {w : World} {p : SparsePublication}
    {e : Path × List Diagnostic} (h : p.effect? w = some e) :
    (c.publish w p).value =
      { c with diagnostics := c.diagnostics.replace e.1 e.2
               host := c.host.map
                (·.presentDiagnostics w.cwd (c.diagnostics.replace e.1 e.2) e) } := by
  have hlist := list_of_effect? h
  have hne : p.list.isEmpty = false := by
    rw [hlist]
    exact List.isEmpty_eq_false_iff.mpr (ne_nil_of_effect? h)
  unfold publish
  rw [publishTarget?_eq, h, hlist]
  cases hc : c.host with
  | none => rfl
  | some host =>
    simp only [Option.map_some, showDiagnostics, get?_replace_self, Logged.value_bind,
      Logged.value_pure, Host.value_setDiagnostics]
    rw [hlist] at hne
    rw [hne]
    rfl

theorem value_highlight (c : Client Server) (cwd : Path) (highlights : Highlights) :
    (c.highlight cwd highlights).value =
      match highlights.uri.filePath? with
      | some file =>
        { c with host := c.host.map fun h =>
                    h.editFile cwd file fun e => { e with highlights := some highlights } }
      | none => c := by
  obtain ⟨host, _, _, _, _⟩ := c
  unfold highlight
  cases host with
  | none => cases highlights.uri.filePath? <;> rfl
  | some h =>
    cases highlights.uri.filePath? with
    | none => rfl
    | some file => simp [Host.value_setHighlights]

/-- Signature help is hidden, or it is shown in the host and kept: a signature with a label, and an
editor of the file. -/
theorem value_showSignature_cases (c : Client Server) (cwd : Path) (help : Option SignatureHelp)
    (file : Path) :
    (c.showSignature cwd help file).value = c.hideSignature ∨
      ∃ h e given signature label, c.host = some h ∧ h.editor? cwd file = some e ∧
        help = some given ∧ given.selected? = some signature ∧
        signature.format? given.activeParameter = some label ∧
        (c.showSignature cwd help file).value =
          { c with host := some (h.showSignature e label).value
                   signature := some ⟨given.signatures, given.activeParameter, label⟩ } := by
  unfold showSignature
  split
  · exact .inl rfl
  · exact .inl rfl
  · next h given signature hc hpick =>
    obtain ⟨given', rfl, hsel⟩ := Option.bind_eq_some_iff.mp hpick
    obtain ⟨signature', hsel, he⟩ := Option.map_eq_some_iff.mp hsel
    cases he
    split
    · exact .inl rfl
    · next label hlabel =>
      split
      · exact .inl rfl
      · next e he => exact .inr ⟨h, e, _, _, label, hc, he, rfl, hsel, hlabel, rfl⟩

theorem value_showLocations_of_none {c : Client Server} (hc : c.host = none) (w : World)
    (locations : List SparseLocation) : (c.showLocations w locations).value = c := by
  unfold showLocations
  rw [hc]
  rfl

/-- The results of a list of places replace those before, in the client and in its host alike. -/
theorem value_showLocations_of_some {c : Client Server} {h : Host} (hc : c.host = some h)
    (w : World) (locations : List SparseLocation) :
    (c.showLocations w locations).value =
      let results := (Search.build w (h.openText w.cwd) locations).value
      { c with host := some { h with searchEmpty := locations.isEmpty, searchResults := results }
               searchResults := results } := by
  unfold showLocations
  rw [hc]
  cases locations <;> rfl

theorem value_showLinks_cases (c : Client Server) (w : World) (links : List SparseLink) :
    (c.showLinks w links).value = c ∨
      ∃ locations, (c.showLinks w links).value = (c.showLocations w locations).value := by
  unfold showLinks
  split
  · exact .inl rfl
  · exact .inr ⟨_, rfl⟩

theorem value_showDocument_of_none {c : Client Server} (hc : c.host = none) (w : World)
    (p : SparseShowRequest) : (c.showDocument w p).value = (c, false) := by
  unfold showDocument
  rw [hc]
  rfl

theorem value_showDocument_of_some {c : Client Server} {h : Host} (hc : c.host = some h) (w : World)
    (p : SparseShowRequest) :
    (c.showDocument w p).value =
      ({ c with host := some (h.showDocument w p).value.1 }, (h.showDocument w p).value.2) := by
  unfold showDocument
  rw [hc]
  rfl

/-- A request that names nothing that can be shown is refused, with a host or without one. -/
theorem value_showDocument_of_not_names (c : Client Server) {w : World} {p : SparseShowRequest}
    (hp : ∀ file range text, ¬p.Names w file range text) : (c.showDocument w p).value = (c, false) := by
  cases hc : c.host with
  | none => exact value_showDocument_of_none hc w p
  | some h =>
    have hsame : { c with host := some h } = c := by rw [← hc]
    rw [value_showDocument_of_some hc, Host.value_showDocument_of_not_names hp]
    exact congrArg (·, false) hsame

end Client

/-! ### Messages -/

variable {Server : Type}

namespace Message

/-- The operation that a message stands for, if it is one of the client's and its parameters
decode. -/
def op? (m : Message) : Option (Op Server) :=
  if m.id.isSome then
    if m.method = Client.showDocumentMethod then
      (Client.decodeLenient? {} SparseShowRequest.decode? m.params).map .showDocument
    else none
  else if m.method = Client.publishMethod then
    (Client.decodeLenient? {} SparsePublication.decode? m.params).map .publish
  else if m.method = Client.telemetryMethod then some (.telemetry (m.params.getD .null))
  else if m.method = Client.highlightMethod then
    (Highlights.decode? (m.params.getD .null)).map .highlight
  else none

theorem op?_cases {m : Message} {op : Op Server} (h : m.op? = some op) :
    (∃ p, op = .showDocument p) ∨ (∃ p, op = .publish p) ∨ (∃ event, op = .telemetry event) ∨
      ∃ highlights, op = .highlight highlights := by
  unfold op? at h
  split at h
  · split at h
    · obtain ⟨p, _, rfl⟩ := Option.map_eq_some_iff.mp h
      exact .inl ⟨p, rfl⟩
    · cases h
  split at h
  · obtain ⟨p, _, rfl⟩ := Option.map_eq_some_iff.mp h
    exact .inr (.inl ⟨p, rfl⟩)
  split at h
  · cases h
    exact .inr (.inr (.inl ⟨_, rfl⟩))
  split at h
  · obtain ⟨highlights, _, rfl⟩ := Option.map_eq_some_iff.mp h
    exact .inr (.inr (.inr ⟨highlights, rfl⟩))
  · cases h

end Message

namespace Op

/-- The operation itself, or the one that a dispatched message stands for. -/
def direct? : Op Server → Option (Op Server)
  | dispatch m => m.op?
  | op => some op

/-- An operation stands for itself, or it is a message for one of four. -/
theorem direct?_eq_some {op op' : Op Server} (h : op.direct? = some op') :
    op' = op ∨ (∃ p, op' = showDocument p) ∨ (∃ p, op' = publish p) ∨
      (∃ event, op' = telemetry event) ∨ ∃ highlights, op' = highlight highlights := by
  cases op
  case dispatch m => exact .inr (Message.op?_cases h)
  all_goals
    cases h
    exact .inl rfl

theorem direct?_of_direct {op op' : Op Server} (h : op.direct? = some op') :
    op'.direct? = some op' := by
  rcases direct?_eq_some h with rfl | ⟨_, rfl⟩ | ⟨_, rfl⟩ | ⟨_, rfl⟩ | ⟨_, rfl⟩
  · exact h
  all_goals rfl

theorem direct?_ne_dispatch (op : Op Server) (m : Message) : op.direct? ≠ some (dispatch m) := by
  intro h
  have hm : m.op? = some (dispatch m) := direct?_of_direct h
  rcases Message.op?_cases hm with ⟨_, h⟩ | ⟨_, h⟩ | ⟨_, h⟩ | ⟨_, h⟩ <;> cases h

/-- The publication that an operation hands to the client, itself or in a message. -/
def publication? (op : Op Server) : Option SparsePublication :=
  match op.direct? with
  | some (publish p) => some p
  | _ => none

theorem publication?_of_direct {op op' : Op Server} (h : op.direct? = some op') :
    op.publication? = op'.publication? := by
  simp only [publication?, h, direct?_of_direct h]

theorem publication?_of_direct_none {op : Op Server} (h : op.direct? = none) :
    op.publication? = none := by
  simp only [publication?, h]

/-- The world after an operation. -/
def world (w : World) : Op Server → World
  | changeDisk disk => { w with disk }
  | _ => w

theorem cwd_world (w : World) (op : Op Server) : (op.world w).cwd = w.cwd := by
  cases op <;> rfl

end Op

namespace Session

theorem step_dispatch (s : Session Server) (m : Message) :
    (s.step (.dispatch m)).session =
      match m.op? with
      | some op => (s.step op).session
      | none => s := by
  obtain ⟨method, params, id⟩ := m
  cases id with
  | some id =>
    simp only [step, Client.dispatch, Client.handleRequest, Message.op?, Option.isSome_some,
      if_true]
    split
    · cases Client.decodeLenient? {} SparseShowRequest.decode? params <;> rfl
    · rfl
  | none =>
    simp only [step, Client.dispatch, Client.handleNotification, Message.op?, Option.isSome_none]
    split
    · cases Client.decodeLenient? {} SparsePublication.decode? params <;> rfl
    split
    · rfl
    split
    · cases Highlights.decode? (params.getD .null) <;> rfl
    · rfl

/-- To look at an operation is to look at the one that it stands for, if there is one. -/
theorem step_of_direct {P : Session Server → Prop} {s : Session Server} {op : Op Server}
    (hs : op.direct? = none → P s)
    (h : ∀ op', op.direct? = some op' → P (s.step op').session) : P (s.step op).session := by
  cases op
  case dispatch m =>
    rw [step_dispatch]
    cases hm : m.op? with
    | some op' => exact h op' hm
    | none => exact hs hm
  all_goals exact h _ rfl

theorem session_step_of_direct {op op' : Op Server} (hd : op.direct? = some op')
    (s : Session Server) : (s.step op).session = (s.step op').session := by
  refine step_of_direct (P := fun after => after = (s.step op').session) (fun hn => ?_) fun _ h => ?_
  · cases hd.symm.trans hn
  · cases hd.symm.trans h
    rfl

theorem session_step_of_direct_none {op : Op Server} (hd : op.direct? = none)
    (s : Session Server) : (s.step op).session = s :=
  step_of_direct (P := (· = s)) (fun _ => rfl) fun _ h => nomatch hd.symm.trans h

theorem changeHost_cases (s : Session Server) (f : Host → Logged Host) :
    (s.changeHost f).session = s ∨ ∃ h, s.client.host = some h ∧
      (s.changeHost f).session = s.withClient { s.client with host := some (f h).value } := by
  unfold changeHost
  split
  · exact .inl rfl
  · next h hh => exact .inr ⟨h, hh, rfl⟩

theorem changeHost_of_some {s : Session Server} {h : Host} (hh : s.client.host = some h)
    (f : Host → Logged Host) :
    (s.changeHost f).session = s.withClient { s.client with host := some (f h).value } := by
  rw [changeHost, hh]
  rfl

theorem changeEditor_cases (s : Session Server) (file : Option Path) (f : Editor → Editor) :
    (s.changeEditor file f).session = s ∨ ∃ h i, s.client.host = some h ∧
      (s.changeEditor file f).session =
        s.withClient { s.client with host := some (h.modifyEditor i f) } := by
  unfold changeEditor
  split
  · exact .inl rfl
  · next h hh =>
    split
    · exact .inl rfl
    · next i _ => exact .inr ⟨h, i, hh, rfl⟩

theorem world_step (s : Session Server) (op : Op Server) :
    (s.step op).session.world = op.world s.world := by
  have host (f : Host → Logged Host) : (s.changeHost f).session.world = s.world := by
    rcases s.changeHost_cases f with he | ⟨h, -, he⟩ <;> rw [he]
    rfl
  have editor (file : Option Path) (f : Editor → Editor) :
      (s.changeEditor file f).session.world = s.world := by
    rcases s.changeEditor_cases file f with he | ⟨h, i, -, he⟩ <;> rw [he]
    rfl
  cases op
  case openEditor => exact host _
  case openAndSelect => exact host _
  case setCaret => exact editor _ _
  case selectRegion => exact editor _ _
  all_goals rfl

theorem cwd_run (s : Session Server) (ops : List (Op Server)) :
    (s.run ops).world.cwd = s.world.cwd := by
  induction ops generalizing s with
  | nil => rfl
  | cons op ops ih => rw [run_cons, ih, world_step, Op.cwd_world]

/-- An operation of a run is the last one, or it is one of the run before. -/
theorem eq_or_eq_concat {α : Type} {as before later : List α} {a next : α}
    (heq : as ++ [next] = before ++ a :: later) :
    (as = before ∧ next = a ∧ later = []) ∨
      ∃ later', later = later' ++ [next] ∧ as = before ++ a :: later' := by
  rcases List.eq_nil_or_concat later with rfl | ⟨later', b, rfl⟩
  · obtain ⟨rfl, hnext⟩ := List.append_inj' heq rfl
    cases hnext
    exact .inl ⟨rfl, rfl, rfl⟩
  · rw [List.concat_eq_append, ← List.cons_append, ← List.append_assoc] at heq
    obtain ⟨rfl, hnext⟩ := List.append_inj' heq rfl
    cases hnext
    exact .inr ⟨later', List.concat_eq_append, rfl⟩

end Session
end EditorSession
