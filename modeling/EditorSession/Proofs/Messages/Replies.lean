import EditorSession.Proofs.Session.Effects

/-! Which messages are answered, and which of them change a client.

A request gets one response, with its own id, and a notification gets none. `Client.StandFor` says
what parameters mean that may be left out; with it, each kind of message comes down to an operation
of the client, or to none at all. `Client.dispatch_replies` puts this together for every message. -/

namespace EditorSession

namespace Response

/-- The text of a response to a request that is supported. -/
theorem encode_shown (id : MessageId) (success : Bool) :
    encode ⟨id, .shown success⟩ =
      .obj [("jsonrpc", .str "2.0"), ("result", .obj [("success", .bool success)]),
        ("id", id.encode)] := rfl

/-- The text of a response to any other request. -/
theorem encode_methodNotFound (id : MessageId) :
    encode ⟨id, .methodNotFound⟩ =
      .obj [("jsonrpc", .str "2.0"),
        ("error", .obj [("code", .int (-32601)), ("message", .str "Method not found")]),
        ("id", id.encode)] := rfl

end Response

namespace Client

variable {Server α : Type}

/-- What parameters stand for that may be left out: the default if they are absent or null, else
what they decode to. -/
inductive StandFor (default : α) (decode : Json → Option α) : Option Json → α → Prop
  | absent : StandFor default decode none default
  | null : StandFor default decode (some .null) default
  | given {j : Json} {a : α} (hj : j ≠ .null) (ha : decode j = some a) :
    StandFor default decode (some j) a

theorem decodeLenient?_eq_some_iff {default a : α} {decode : Json → Option α}
    {params : Option Json} :
    decodeLenient? default decode params = some a ↔ StandFor default decode params a := by
  constructor
  · intro h
    unfold decodeLenient? at h
    split at h
    · cases h
      exact .absent
    · cases h
      exact .null
    · next j hj => exact .given (fun hn => hj (hn ▸ rfl)) h
  · intro h
    cases h with
    | absent => rfl
    | null => rfl
    | given hj ha =>
      unfold decodeLenient?
      split
      · next he => cases he
      · next he => exact (hj (Option.some.inj he)).elim
      · next he => rwa [← Option.some.inj he]

theorem StandFor.unique {default a b : α} {decode : Json → Option α} {params : Option Json}
    (ha : StandFor default decode params a) (hb : StandFor default decode params b) : a = b :=
  Option.some.inj
    ((decodeLenient?_eq_some_iff.mpr ha).symm.trans (decodeLenient?_eq_some_iff.mpr hb))

theorem decodeLenient?_eq_none_iff {default : α} {decode : Json → Option α}
    {params : Option Json} :
    decodeLenient? default decode params = none ↔ ∀ a, ¬StandFor default decode params a := by
  simp only [Option.eq_none_iff_forall_ne_some, ne_eq, decodeLenient?_eq_some_iff]

/-! ### Requests -/

/-- A request without a file or without a selection shows nothing. -/
theorem value_showDocument_of_incomplete (c : Client Server) (w : World) {p : SparseShowRequest}
    (hp : p.uri = none ∨ p.selection = none) : (c.showDocument w p).value = (c, false) := by
  apply value_showDocument_of_not_names
  rintro file range text ⟨⟨uri, hu, -⟩, hs, -⟩
  rcases hp with hp | hp
  · cases hp.symm.trans hu
  · cases hp.symm.trans hs

variable {c : Client Server} {w : World} {method : String} {id : MessageId} {params : Option Json}

theorem value_handleRequest_show {p : SparseShowRequest} (hm : method = showDocumentMethod)
    (hp : StandFor {} SparseShowRequest.decode? params p) :
    (c.handleRequest w method id params).value =
      ((c.showDocument w p).value.1, ⟨id, .shown (c.showDocument w p).value.2⟩) := by
  rw [handleRequest, if_pos hm, decodeLenient?_eq_some_iff.mpr hp]
  rfl

theorem value_handleRequest_undecodable (hm : method = showDocumentMethod)
    (hp : ∀ p, ¬StandFor {} SparseShowRequest.decode? params p) :
    (c.handleRequest w method id params).value = (c, ⟨id, .shown false⟩) := by
  rw [handleRequest, if_pos hm, decodeLenient?_eq_none_iff.mpr hp]
  rfl

theorem value_handleRequest_other (hm : method ≠ showDocumentMethod) :
    (c.handleRequest w method id params).value = (c, ⟨id, .methodNotFound⟩) := by
  rw [handleRequest, if_neg hm]
  rfl

/-- The response to a request has its id, whatever the request asks for. -/
theorem id_handleRequest : (c.handleRequest w method id params).value.2.id = id := by
  by_cases hm : method = showDocumentMethod
  · by_cases hp : ∃ p, StandFor {} SparseShowRequest.decode? params p
    · obtain ⟨p, hp⟩ := hp
      rw [value_handleRequest_show hm hp]
    · rw [value_handleRequest_undecodable hm (not_exists.mp hp)]
  · rw [value_handleRequest_other hm]

/-! ### Notifications -/

theorem value_handleNotification_publish {p : SparsePublication} (hm : method = publishMethod)
    (hp : StandFor {} SparsePublication.decode? params p) :
    (c.handleNotification w method params).value = (c.publish w p).value := by
  rw [handleNotification, if_pos hm, decodeLenient?_eq_some_iff.mpr hp]

theorem value_handleNotification_highlight {j : Json} {highlights : Highlights}
    (hm : method = highlightMethod) (hj : params = some j)
    (hh : Highlights.decode? j = some highlights) :
    (c.handleNotification w method params).value = (c.highlight w.cwd highlights).value := by
  subst hm hj
  simp only [handleNotification, Option.getD_some, hh]
  rfl

/-- A notification that is for no operation of the client, or whose parameters do not decode, is
dropped. -/
theorem value_handleNotification_of_dropped
    (hpublish : method = publishMethod → ∀ p, ¬StandFor {} SparsePublication.decode? params p)
    (hhighlight : method = highlightMethod →
      ∀ j, params = some j → Highlights.decode? j = none) :
    (c.handleNotification w method params).value = c := by
  unfold handleNotification
  split
  · next hm =>
    rw [decodeLenient?_eq_none_iff.mpr (hpublish hm)]
    rfl
  split
  · rfl
  split
  · next hm =>
    have hnone : Highlights.decode? (params.getD .null) = none := by
      cases hp : params with
      | none => rfl
      | some j => exact hhighlight hm j hp
    rw [hnone]
    rfl
  · rfl

/-! ### Messages -/

theorem value_dispatch_of_some {m : Message} (hid : m.id = some id) :
    (c.dispatch w m).value =
      ((c.handleRequest w m.method id m.params).value.1,
        some (c.handleRequest w m.method id m.params).value.2) := by
  rw [dispatch, hid]
  rfl

theorem value_dispatch_of_none {m : Message} (hid : m.id = none) :
    (c.dispatch w m).value = ((c.handleNotification w m.method m.params).value, none) := by
  rw [dispatch, hid]
  rfl

/-- A message that is answered is a request, and it has been handled as one. -/
theorem dispatch_of_response {m : Message} {r : Response}
    (hr : (c.dispatch w m).value.2 = some r) :
    ∃ id, (c.dispatch w m).value.1 = (c.handleRequest w m.method id m.params).value.1 ∧
      r = (c.handleRequest w m.method id m.params).value.2 := by
  cases hid : m.id with
  | none =>
    rw [value_dispatch_of_none hid] at hr
    cases hr
  | some id =>
    rw [value_dispatch_of_some hid] at hr ⊢
    exact ⟨id, rfl, (Option.some.inj hr).symm⟩

theorem map_id_dispatch (c : Client Server) (w : World) (m : Message) :
    (c.dispatch w m).value.2.map (·.id) = m.id := by
  cases hid : m.id with
  | none => rw [value_dispatch_of_none hid, Option.map_none]
  | some id => rw [value_dispatch_of_some hid, Option.map_some, id_handleRequest]

/-- A message is answered exactly if it has an id, and with this id. A request to show a document is
told whether it is shown, and nothing changes if it cannot be read or leaves out the file or the
selection. Any other request is told that there is no such method, and changes nothing. Of the
notifications only two kinds change the client, and only if their parameters decode. -/
theorem dispatch_replies (c : Client Server) (w : World) (m : Message) :
    let after := (c.dispatch w m).value.1
    let response := (c.dispatch w m).value.2
    response.map (·.id) = m.id ∧
    (m.method = showDocumentMethod → ∀ r, response = some r → ∃ success,
      r.encode = .obj [("jsonrpc", .str "2.0"), ("result", .obj [("success", .bool success)]),
        ("id", r.id.encode)] ∧
      (∀ p, StandFor {} SparseShowRequest.decode? m.params p →
        (c.showDocument w p).value = (after, success)) ∧
      ((∀ p, StandFor {} SparseShowRequest.decode? m.params p →
        p.uri = none ∨ p.selection = none) → success = false ∧ after = c)) ∧
    (m.method ≠ showDocumentMethod → ∀ r, response = some r →
      r.encode = .obj [("jsonrpc", .str "2.0"),
        ("error", .obj [("code", .int (-32601)), ("message", .str "Method not found")]),
        ("id", r.id.encode)] ∧
      after = c) ∧
    (m.id = none →
      (m.method = publishMethod → ∀ p, StandFor {} SparsePublication.decode? m.params p →
        after = (c.publish w p).value) ∧
      (m.method = highlightMethod → ∀ j h, m.params = some j → Highlights.decode? j = some h →
        after = (c.highlight w.cwd h).value) ∧
      (after ≠ c →
        (m.method = publishMethod ∧ ∃ p, StandFor {} SparsePublication.decode? m.params p) ∨
        (m.method = highlightMethod ∧ ∃ j h, m.params = some j ∧
          Highlights.decode? j = some h))) := by
  intro after response
  refine ⟨c.map_id_dispatch w m, fun hm r hr => ?_, fun hm r hr => ?_, fun hid => ?_⟩
  · obtain ⟨id, hafter, hr⟩ := dispatch_of_response hr
    by_cases hp : ∃ p, StandFor {} SparseShowRequest.decode? m.params p
    · obtain ⟨p, hp⟩ := hp
      rw [value_handleRequest_show hm hp] at hafter hr
      subst hr
      refine ⟨_, Response.encode_shown _ _, fun q hq => ?_, fun hall => ?_⟩
      · obtain rfl := hq.unique hp
        exact Prod.ext hafter.symm rfl
      · rw [c.value_showDocument_of_incomplete w (hall p hp)] at hafter ⊢
        exact ⟨rfl, hafter⟩
    · have hnone := not_exists.mp hp
      rw [value_handleRequest_undecodable hm hnone] at hafter hr
      subst hr
      exact ⟨false, Response.encode_shown _ _, fun p hp => (hnone p hp).elim,
        fun _ => ⟨rfl, hafter⟩⟩
  · obtain ⟨id, hafter, hr⟩ := dispatch_of_response hr
    rw [value_handleRequest_other hm] at hafter hr
    subst hr
    exact ⟨Response.encode_methodNotFound _, hafter⟩
  · have hafter : after = (c.handleNotification w m.method m.params).value :=
      congrArg Prod.fst (value_dispatch_of_none hid)
    rw [hafter]
    refine ⟨fun hm p hp => value_handleNotification_publish hm hp,
      fun hm j h hj hh => value_handleNotification_highlight hm hj hh, fun hne => ?_⟩
    by_contra hn
    obtain ⟨hpublish, hhighlight⟩ := not_or.mp hn
    refine hne (value_handleNotification_of_dropped (fun hm p hp => hpublish ⟨hm, p, hp⟩)
      fun hm j hj => ?_)
    cases hh : Highlights.decode? j with
    | none => rfl
    | some h => exact (hhighlight ⟨hm, j, h, hj, hh⟩).elim

end Client

end EditorSession
