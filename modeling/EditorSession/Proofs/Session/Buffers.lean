import EditorSession.Proofs.Hosts.Visits
import EditorSession.Proofs.Session.Reachable
import EditorSession.Proofs.Session.Traffic

/-! What a server can do to the editors that are open.

Of all that a server can send, only a request to show a document that succeeds (`Session.visit?`)
moves a caret, gives an editor the focus or adds one. `Session.visited_step` says this of one
operation and `Session.visited_run` of any number of them, so that no traffic loses an open buffer
(`Session.buffers_run`). -/

namespace EditorSession

variable {Server : Type}

/-- Whether an answer says that a document is shown. -/
def Answer.isShown : Answer → Bool
  | .shown success => success
  | .responded (some ⟨_, .shown success⟩) => success
  | _ => false

namespace Session

/-- The file that an operation shows, and the range that it selects there: those of a request to
show a document, by itself or in a message, that is answered with success. -/
def visit? (s : Session Server) (op : Op Server) : Option (Path × Range) :=
  match op.direct? with
  | some (.showDocument p) =>
    if (s.step op).answer.isShown then Host.showTarget? s.world p else none
  | _ => none

/-- The files that the operations of a run show, the oldest first. -/
def visits (s : Session Server) : List (Op Server) → List (Path × Range)
  | [] => []
  | op :: ops => (s.visit? op).toList ++ (s.step op).session.visits ops

variable {s : Session Server} {h : Host} {op : Op Server}

theorem isShown_of_direct {p : SparseShowRequest} (hd : op.direct? = some (.showDocument p)) :
    (s.step op).answer.isShown = (s.client.showDocument s.world p).value.2 := by
  cases op
  case showDocument p' =>
    cases hd
    rfl
  case dispatch m =>
    have hm : m.op? = some (.showDocument p) := hd
    obtain ⟨id, hresponse⟩ := Message.response?_of_showDocument hm (s.succeeds m.op?)
    rw [answer_dispatch, hresponse, hm]
    rfl
  all_goals cases hd

theorem visit?_of_direct {op' : Op Server} (hd : op.direct? = some op') :
    s.visit? op = s.visit? op' := by
  have hd' := Op.direct?_of_direct hd
  cases op'
  case showDocument p => simp only [visit?, hd, hd', isShown_of_direct hd, isShown_of_direct hd']
  all_goals simp only [visit?, hd, hd']

/-! ### One operation -/

theorem isShown_showDocument (hh : s.client.host = some h) (p : SparseShowRequest) :
    (s.step (.showDocument p)).answer.isShown = (h.showDocument s.world p).value.2 :=
  congrArg Prod.snd (Client.value_showDocument_of_some hh s.world p)

theorem Idle.visit?_eq_none (hi : s.Idle op) (hh : s.client.host = some h)
    (hd : op.direct? = some op) : s.visit? op = none := by
  cases op
  case showDocument p =>
    have hvalue := Host.value_showDocument_of_not_names (h := h) hi
    simp only [visit?, Op.direct?, isShown_showDocument hh, hvalue, Bool.false_eq_true, if_false]
  case dispatch m => exact absurd hd (Op.direct?_ne_dispatch _ m)
  all_goals rfl

theorem Touches.visited {h' : Host} (ht : s.Touches h op h') (hv : h.Valid s.world.cwd)
    (hh : s.client.host = some h) (hd : op.direct? = some op) :
    Host.Visited s.world.cwd (s.visit? op).toList h h' := by
  cases ht with
  | publish store heffect =>
    exact .of_bare (h.map_editFile s.world.cwd _ fun _ => rfl) rfl
  | @highlight highlights file hfile =>
    exact .of_bare (h.map_editFile s.world.cwd file fun _ => rfl) rfl
  | @showDocument p file range text hp =>
    have hvisit : s.visit? (.showDocument p) = some (file, range) := by
      simp only [visit?, Op.direct?, isShown_showDocument hh, hv.value_showDocument hp, if_true]
      exact Host.showTarget?_eq_some_iff.mpr ⟨text, hp⟩
    rw [hvisit]
    exact hv.visited_reveal file text range
  | idle hi heditors hactive =>
    rw [hi.visit?_eq_none hh hd]
    exact .of_bare (congrArg (List.map Editor.bare) heditors) hactive

/-- What comes from a server visits a file, if it shows a document, and else leaves the editors with
their carets and the focus. -/
theorem visited_step (hs : s.Valid) (hh : s.client.host = some h) (hop : op.isTraffic = true) :
    ∃ h', (s.step op).session.client.host = some h' ∧
      Host.Visited s.world.cwd (s.visit? op).toList h h' := by
  have hv := hs h hh
  cases hd : op.direct? with
  | none =>
    have hn : s.visit? op = none := by simp only [visit?, hd]
    rw [session_step_of_direct_none hd, hn]
    exact ⟨h, hh, .refl _ h⟩
  | some op' =>
    have hd' := Op.direct?_of_direct hd
    obtain ⟨h', hh', ht⟩ := touches_step_of_direct hv hh hd' (Op.isTraffic_of_direct hd hop)
    rw [session_step_of_direct hd, visit?_of_direct hd]
    exact ⟨h', hh', ht.visited hv hh hd'⟩

/-! ### Runs -/

theorem visited_run (hs : s.Valid) (hh : s.client.host = some h) {ops : List (Op Server)}
    (hl : ∀ op ∈ ops, op.isTraffic = true ∨ ∃ disk, op = .changeDisk disk) :
    ∃ h', (s.run ops).client.host = some h' ∧
      Host.Visited s.world.cwd (s.visits ops) h h' := by
  induction ops generalizing s h with
  | nil => exact ⟨h, hh, .refl _ h⟩
  | cons op ops ih =>
    have hfirst : ∃ h', (s.step op).session.client.host = some h' ∧
        Host.Visited s.world.cwd (s.visit? op).toList h h' := by
      rcases hl op List.mem_cons_self with hop | ⟨disk, rfl⟩
      · exact visited_step hs hh hop
      · exact ⟨h, hh, .refl _ h⟩
    have hattach : ∀ h, op = .attachHost h → h.Valid s.world.cwd := by
      rintro _ rfl
      rcases hl _ List.mem_cons_self with hop | ⟨_, hop⟩ <;> cases hop
    have hcwd : (s.step op).session.world.cwd = s.world.cwd := by
      rw [world_step, Op.cwd_world]
    obtain ⟨h₁, hh₁, hv₁⟩ := hfirst
    obtain ⟨h₂, hh₂, hv₂⟩ := ih (valid_step hattach hs) hh₁ fun op' hop => hl op' (.tail _ hop)
    rw [hcwd] at hv₂
    exact ⟨h₂, hh₂, hv₁.trans hv₂⟩

/-- No traffic loses an open buffer. Editors stay where they are with their files and their texts,
and others come after them. The caret and the selection of an editor are those of the last request
for its file that succeeded, and are as they were if there was none; the editor of the last request
of all is active, and without one the focus stays. -/
theorem buffers_run (hs : s.Reachable) (hh : s.client.host = some h) {ops : List (Op Server)}
    (hl : ∀ op ∈ ops, op.isTraffic = true ∨ ∃ disk, op = .changeDisk disk) :
    let cwd := s.world.cwd
    let visits := s.visits ops
    ∃ h', (s.run ops).client.host = some h' ∧
      (∀ (i : Nat) (e : Editor), h.editors[i]? = some e → ∃ e', h'.editors[i]? = some e' ∧
        e'.file = e.file ∧ e'.content = e.content ∧
        (e'.cursor, e'.selection) =
          ((Path.latest? cwd visits e.file).map Range.caret).getD (e.cursor, e.selection)) ∧
      (∀ (i : Nat) (e' : Editor), h.editors.length ≤ i → h'.editors[i]? = some e' →
        (Path.latest? cwd visits e'.file).map Range.caret = some (e'.cursor, e'.selection)) ∧
      (visits = [] → h'.active = h.active) ∧
      ∀ d, visits.getLast? = some d → ∃ (i : Nat) (e' : Editor), h'.active = some i ∧
        h'.editors[i]? = some e' ∧ Path.sameFile cwd d.1 e'.file := by
  intro cwd visits
  obtain ⟨h', hh', hv⟩ := visited_run (valid_of_reachable hs) hh hl
  exact ⟨h', hh', hv.kept, hv.added, hv.still, hv.active⟩

/-- A file that is open with changes is shown, while it changes on the disk and another is active. -/
theorem buffers_run_unsaved :
    let a : Url := { scheme := "file", authority := none, path := .rooted ["a"] }
    let word : Range := { start := { character := 0 }, stop := { character := 1 } }
    let w : World := { cwd := .ofString "/", disk := ⟨[([[0x61]], .file [0x78])]⟩ }
    let s : Session Unit := (Session.run ⟨{}, w⟩ [.attachHost (.ofSize 80 24)]).run
      [.openEditor (.ofString "a/") "unsaved", .openEditor (.ofString "/b") ""]
    let ops : List (Op Unit) :=
      [.publish { uri := some a, diagnostics := some [{ range := {}, message := "unused" }] },
        .showDocument { uri := some a }, .changeDisk ⟨[([[0x61]], .file [0x79])]⟩,
        .showDocument { uri := some a, selection := some word }, .hideSignature]
    ∃ h, s.Reachable ∧ s.client.host = some h ∧
      (∀ op ∈ ops, op.isTraffic = true ∨ ∃ disk, op = .changeDisk disk) ∧
      let cwd := s.world.cwd
      let visits := s.visits ops
      visits = [(.ofString "/a", word)] ∧
      ∃ h', (s.run ops).client.host = some h' ∧
        (∀ (i : Nat) (e : Editor), h.editors[i]? = some e → ∃ e', h'.editors[i]? = some e' ∧
          e'.file = e.file ∧ e'.content = e.content ∧
          (e'.cursor, e'.selection) =
            ((Path.latest? cwd visits e.file).map Range.caret).getD (e.cursor, e.selection)) ∧
        (∀ (i : Nat) (e' : Editor), h.editors.length ≤ i → h'.editors[i]? = some e' →
          (Path.latest? cwd visits e'.file).map Range.caret = some (e'.cursor, e'.selection)) ∧
        (visits = [] → h'.active = h.active) ∧
        ∀ d, visits.getLast? = some d → ∃ (i : Nat) (e' : Editor), h'.active = some i ∧
          h'.editors[i]? = some e' ∧ Path.sameFile cwd d.1 e'.file := by
  intro a word w s ops
  have hnew : Reachable (Session.run ⟨{}, w⟩ [.attachHost (.ofSize 80 24)] : Session Unit) :=
    (Reachable.new {} w).attachNew 80 24
  have hs : s.Reachable := hnew.run (by simp)
  have hl : ∀ op ∈ ops, op.isTraffic = true ∨ ∃ disk, op = .changeDisk disk := by
    simp [ops, Op.isTraffic]
  exact ⟨_, hs, rfl, hl, by decide +kernel, buffers_run hs rfl hl⟩

end Session

end EditorSession
