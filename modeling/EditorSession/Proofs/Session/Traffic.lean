import EditorSession.Proofs.Session.Effects

/-! What comes from a server.

The answer to a message or a call of a server depends on whether a document is shown, and on nothing
else (`Session.answer_congr`). It comes to the editors of a host in three ways: diagnostics and
highlights are put into the editor of their file, and a document is shown. All else leaves the
editors and the focus as they are (`Session.touches_step_of_direct`). -/

namespace EditorSession

variable {Server : Type}

namespace Message

/-- The response to a message, if it is a request. Only a request to show a document is told whether
it succeeds. -/
def response? (m : Message) (success : Bool) : Option Response :=
  m.id.map fun id =>
    ⟨id, if m.method = Client.showDocumentMethod then .shown success else .methodNotFound⟩

/-- A message that asks for a document is a request, and it is told whether the document is shown. -/
theorem response?_of_showDocument {m : Message} {p : SparseShowRequest}
    (h : m.op? = some (Op.showDocument p : Op Server)) (success : Bool) :
    ∃ id, m.response? success = some ⟨id, .shown success⟩ := by
  unfold op? at h
  split at h
  · next hid =>
    split at h
    · next hmethod =>
      obtain ⟨id, hid⟩ := Option.isSome_iff_exists.mp hid
      exact ⟨id, by rw [response?, hid, if_pos hmethod, Option.map_some]⟩
    · cases h
  split at h
  · obtain ⟨_, _, h⟩ := Option.map_eq_some_iff.mp h
    cases h
  split at h
  · cases h
  split at h
  · obtain ⟨_, _, h⟩ := Option.map_eq_some_iff.mp h
    cases h
  · cases h

end Message

namespace Op

/-- Whether an operation hands the client what a server has to say or to ask. -/
def isTraffic : Op Server → Bool
  | publish _ | highlight _ | telemetry _ | showSignature .. | hideSignature | showLocations _
  | showLinks _ | showDocument _ | dispatch _ => true
  | _ => false

theorem isTraffic_of_direct {op op' : Op Server} (h : op.direct? = some op')
    (hop : op.isTraffic = true) : op'.isTraffic = true := by
  rcases direct?_eq_some h with rfl | ⟨_, rfl⟩ | ⟨_, rfl⟩ | ⟨_, rfl⟩ | ⟨_, rfl⟩
  · exact hop
  all_goals rfl

end Op

namespace Session

/-! ### Answers -/

/-- Whether an operation shows a document. -/
def succeeds (s : Session Server) : Option (Op Server) → Bool
  | some (.showDocument p) => (s.client.showDocument s.world p).value.2
  | _ => false

theorem answer_dispatch (s : Session Server) (m : Message) :
    (s.step (.dispatch m)).answer = .responded (m.response? (s.succeeds m.op?)) := by
  obtain ⟨method, params, id⟩ := m
  cases id with
  | none => rfl
  | some id =>
    simp only [step, Client.dispatch, Client.handleRequest, Message.op?, Message.response?,
      Option.isSome_some, Option.map_some, if_true]
    split
    · cases Client.decodeLenient? {} SparseShowRequest.decode? params <;> rfl
    · rfl

/-- The answer to what a server asks depends on whether a document is shown, and on nothing else. -/
theorem answer_congr {s t : Session Server} {op : Op Server} (hop : op.isTraffic = true)
    (h : t.succeeds op.direct? = s.succeeds op.direct?) : (t.step op).answer = (s.step op).answer := by
  cases op
  case showDocument p => exact congrArg Answer.shown h
  case dispatch m =>
    rw [answer_dispatch, answer_dispatch]
    exact congrArg (fun success => Answer.responded (m.response? success)) h
  all_goals first | rfl | cases hop

/-! ### Editors -/

/-- The operation has nothing for any editor: neither diagnostics nor highlights for a file, nor a
document that can be shown. -/
def Idle (s : Session Server) : Op Server → Prop
  | .publish p => p.effect? s.world = none
  | .highlight highlights => highlights.uri.filePath? = none
  | .showDocument p => ∀ file range text, ¬p.Names s.world file range text
  | _ => True

/-- What an operation makes of the host `h`. An idle one may change anything but the editors and the
focus. -/
inductive Touches (s : Session Server) (h : Host) : Op Server → Host → Prop
  | publish {p : SparsePublication} {d : Path × List Diagnostic} (store : DiagnosticStore)
    (heffect : p.effect? s.world = some d) :
    Touches s h (.publish p) (h.presentDiagnostics s.world.cwd store d)
  | highlight {highlights : Highlights} {file : Path} (hfile : highlights.uri.filePath? = some file) :
    Touches s h (.highlight highlights)
      (h.editFile s.world.cwd file fun e => { e with highlights := some highlights })
  | showDocument {p : SparseShowRequest} {file : Path} {range : Range} {text : String}
    (hp : p.Names s.world file range text) :
    Touches s h (.showDocument p) (h.reveal s.world.cwd file text range)
  | idle {op : Op Server} {h' : Host} (hi : s.Idle op) (heditors : h'.editors = h.editors)
    (hactive : h'.active = h.active) : Touches s h op h'

/-- The session `s'` has a host, the one that the operation makes of `h`. -/
def TouchedAfter (s : Session Server) (h : Host) (op : Op Server) (s' : Session Server) : Prop :=
  ∃ h', s'.client.host = some h' ∧ s.Touches h op h'

variable {s : Session Server} {h : Host} {op : Op Server}

theorem TouchedAfter.idle {s' : Session Server} {h' : Host} (hi : s.Idle op)
    (hh : s'.client.host = some h') (heditors : h'.editors = h.editors)
    (hactive : h'.active = h.active) : s.TouchedAfter h op s' :=
  ⟨h', hh, .idle hi heditors hactive⟩

theorem touches_publish (hh : s.client.host = some h) (p : SparsePublication) :
    s.TouchedAfter h (.publish p) (s.step (.publish p)).session := by
  change TouchedAfter s h (.publish p) ⟨(s.client.publish s.world p).value, s.world⟩
  cases heffect : p.effect? s.world with
  | none =>
    rw [Client.value_publish_of_none _ heffect, hh]
    exact .idle heffect rfl rfl rfl
  | some d =>
    rw [Client.value_publish_of_some _ heffect, hh]
    exact ⟨_, rfl, .publish _ heffect⟩

theorem touches_highlight (hh : s.client.host = some h) (highlights : Highlights) :
    s.TouchedAfter h (.highlight highlights) (s.step (.highlight highlights)).session := by
  change TouchedAfter s h (.highlight highlights)
    ⟨(s.client.highlight s.world.cwd highlights).value, s.world⟩
  rw [Client.value_highlight]
  cases hfile : highlights.uri.filePath? with
  | none => exact .idle hfile hh rfl rfl
  | some file =>
    rw [hh]
    exact ⟨_, rfl, .highlight hfile⟩

theorem touches_showSignature (hh : s.client.host = some h) (help : Option SignatureHelp)
    (file : Path) :
    s.TouchedAfter h (.showSignature help file) (s.step (.showSignature help file)).session := by
  change TouchedAfter s h (.showSignature help file)
    ⟨(s.client.showSignature s.world.cwd help file).value, s.world⟩
  rcases s.client.value_showSignature_cases s.world.cwd help file with
    hv | ⟨h', e, given, signature, label, hh', -, -, -, -, hv⟩
  · rw [hv]
    exact .idle trivial (congrArg (Option.map Host.hideSignature) hh) rfl rfl
  · cases hh.symm.trans hh'
    rw [hv]
    exact .idle trivial rfl rfl rfl

theorem touches_showLocations (locations : List SparseLocation) (hi : s.Idle op)
    (hh : s.client.host = some h) :
    s.TouchedAfter h op (s.step (.showLocations locations)).session := by
  change TouchedAfter s h op ⟨(s.client.showLocations s.world locations).value, s.world⟩
  rw [Client.value_showLocations_of_some hh]
  exact .idle hi rfl rfl rfl

theorem touches_showLinks (hh : s.client.host = some h) (links : List SparseLink) :
    s.TouchedAfter h (.showLinks links) (s.step (.showLinks links)).session := by
  change TouchedAfter s h (.showLinks links) ⟨(s.client.showLinks s.world links).value, s.world⟩
  rcases s.client.value_showLinks_cases s.world links with heq | ⟨locations, heq⟩ <;> rw [heq]
  · exact .idle trivial hh rfl rfl
  · exact touches_showLocations locations trivial hh

theorem touches_showDocument (hv : h.Valid s.world.cwd) (hh : s.client.host = some h)
    (p : SparseShowRequest) :
    s.TouchedAfter h (.showDocument p) (s.step (.showDocument p)).session := by
  have hvalue := congrArg Prod.fst (Client.value_showDocument_of_some hh s.world p)
  refine ⟨_, congrArg Client.host hvalue, ?_⟩
  rcases hv.value_showDocument_cases p with ⟨file, range, text, hp, heq⟩ | ⟨hn, heq⟩ <;> rw [heq]
  · exact .showDocument hp
  · exact .idle hn rfl rfl

/-- The ways in which a server comes to the editors. -/
theorem touches_step_of_direct (hv : h.Valid s.world.cwd) (hh : s.client.host = some h)
    (hd : op.direct? = some op) (hop : op.isTraffic = true) :
    ∃ h', (s.step op).session.client.host = some h' ∧ s.Touches h op h' := by
  change s.TouchedAfter h op (s.step op).session
  cases op
  case publish p => exact touches_publish hh p
  case highlight highlights => exact touches_highlight hh highlights
  case telemetry event => exact .idle trivial hh rfl rfl
  case showSignature help file => exact touches_showSignature hh help file
  case hideSignature =>
    exact .idle trivial (congrArg (Option.map Host.hideSignature) hh) rfl rfl
  case showLocations locations => exact touches_showLocations locations trivial hh
  case showLinks links => exact touches_showLinks hh links
  case showDocument p => exact touches_showDocument hv hh p
  case dispatch m => exact absurd hd (Op.direct?_ne_dispatch _ m)
  all_goals cases hop

end Session
end EditorSession
