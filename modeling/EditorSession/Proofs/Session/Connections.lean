import EditorSession.Proofs.Session.Effects
import Mathlib.Data.List.Induction
import Mathlib.Data.List.ReduceOption

/-! The connection over a run.

A connection is made or lost by an operation that says so (`Op.link?`) and by no other
(`Session.connection_step`), and a collaborator is called for what an operation asks of it
(`Op.call?`) and for nothing else (`Session.calls_step`). After a run the latest of the former says
whether a server is connected, and the calls are those that were asked for, each once and in order
(`Session.connection_run`, `Session.calls_run`). -/

namespace EditorSession

variable {Server : Type}

namespace Op

/-- The server that an operation connects, or none if it disconnects. Other operations have no part
in the connection. -/
def link? : Op Server → Option (Option Server)
  | connect server => some (some server)
  | disconnect => some none
  | _ => none

/-- The call that an operation asks of a collaborator. -/
def call? : Op Server → Option (Call Server)
  | connect server => some (.connected server)
  | requestStart => some .start
  | reportProgress message => some (.report message)
  | reportFailure failure => some (.failed failure)
  | _ => none

/-- Operations of the protocol have no part in the connection. -/
theorem link?_of_direct {op op' : Op Server} (h : op.direct? = some op') : op.link? = op'.link? := by
  cases op
  case dispatch m =>
    rcases Message.op?_cases h with ⟨_, rfl⟩ | ⟨_, rfl⟩ | ⟨_, rfl⟩ | ⟨_, rfl⟩ <;> rfl
  all_goals
    cases h
    rfl

end Op

namespace Connection

/-- There is a collaborator that takes the call. -/
def takes (c : Connection Server) : Call Server → Bool
  | .start => c.hasStarter
  | .connected _ => c.hasListener
  | .report _ | .failed _ => c.hasReporter

/-- The connection with a server, or without one. The server before it is remembered until there is
another. -/
def link (c : Connection Server) (server : Option Server) : Connection Server :=
  { c with connected := server.isSome, server := server.or c.server }

/-- To connect and to disconnect leaves the collaborators as they are. -/
@[simp] theorem takes_link (c : Connection Server) (server : Option Server) :
    (c.link server).takes = c.takes := by
  funext call
  cases call <;> rfl

end Connection

namespace Session

variable {s : Session Server}

/-- The calls that a run makes, in order. -/
def calls (s : Session Server) : List (Op Server) → List (Call Server)
  | [] => []
  | op :: ops => (s.step op).calls ++ (s.step op).session.calls ops

/-! ### One operation -/

theorem connection_changeHost (s : Session Server) (f : Host → Logged Host) :
    (s.changeHost f).session.client.connection = s.client.connection := by
  rcases s.changeHost_cases f with h | ⟨_, -, h⟩ <;> rw [h]
  rfl

theorem connection_changeEditor (s : Session Server) (file : Option Path) (f : Editor → Editor) :
    (s.changeEditor file f).session.client.connection = s.client.connection := by
  rcases s.changeEditor_cases file f with h | ⟨_, _, -, h⟩ <;> rw [h]
  rfl

theorem connection_publish (c : Client Server) (w : World) (p : SparsePublication) :
    (c.publish w p).value.connection = c.connection := by
  cases he : p.effect? w with
  | none => rw [Client.value_publish_of_none c he]
  | some e => rw [Client.value_publish_of_some c he]

theorem connection_highlight (c : Client Server) (cwd : Path) (highlights : Highlights) :
    (c.highlight cwd highlights).value.connection = c.connection := by
  rw [Client.value_highlight]
  split <;> rfl

theorem connection_showSignature (c : Client Server) (cwd : Path) (help : Option SignatureHelp)
    (file : Path) : (c.showSignature cwd help file).value.connection = c.connection := by
  rcases c.value_showSignature_cases cwd help file with h | ⟨_, _, _, _, _, _, _, _, _, _, h⟩ <;> rw [h]
  rfl

theorem connection_showLocations (c : Client Server) (w : World) (ls : List SparseLocation) :
    (c.showLocations w ls).value.connection = c.connection := by
  cases hc : c.host with
  | none => rw [Client.value_showLocations_of_none hc]
  | some h => rw [Client.value_showLocations_of_some hc]

theorem connection_showLinks (c : Client Server) (w : World) (links : List SparseLink) :
    (c.showLinks w links).value.connection = c.connection := by
  rcases c.value_showLinks_cases w links with h | ⟨ls, h⟩ <;> rw [h]
  exact connection_showLocations c w ls

theorem connection_showDocument (c : Client Server) (w : World) (p : SparseShowRequest) :
    (c.showDocument w p).value.1.connection = c.connection := by
  cases hc : c.host with
  | none => rw [Client.value_showDocument_of_none hc]
  | some h => rw [Client.value_showDocument_of_some hc]

theorem connection_step_of_direct {op : Op Server} (hd : op.direct? = some op) :
    (s.step op).session.client.connection =
      match op.link? with
      | none => s.client.connection
      | some server => s.client.connection.link server := by
  cases op
  case openEditor => exact connection_changeHost s _
  case openAndSelect => exact connection_changeHost s _
  case setCaret => exact connection_changeEditor s _ _
  case selectRegion => exact connection_changeEditor s _ _
  case publish p => exact connection_publish s.client s.world p
  case highlight highlights => exact connection_highlight s.client s.world.cwd highlights
  case showSignature help file => exact connection_showSignature s.client s.world.cwd help file
  case showLocations ls => exact connection_showLocations s.client s.world ls
  case showLinks links => exact connection_showLinks s.client s.world links
  case showDocument p => exact connection_showDocument s.client s.world p
  case dispatch m => exact absurd hd (Op.direct?_ne_dispatch _ m)
  all_goals rfl

/-- A server connects, or the connection is lost; nothing else changes the connection. -/
theorem connection_step (s : Session Server) (op : Op Server) :
    (s.step op).session.client.connection =
      match op.link? with
      | none => s.client.connection
      | some server => s.client.connection.link server := by
  cases hd : op.direct? with
  | none =>
    rw [session_step_of_direct_none hd]
    cases op
    case dispatch m => rfl
    all_goals cases hd
  | some op' =>
    rw [session_step_of_direct hd, Op.link?_of_direct hd]
    exact connection_step_of_direct (Op.direct?_of_direct hd)

theorem takes_step (s : Session Server) (op : Op Server) :
    (s.step op).session.client.connection.takes = s.client.connection.takes := by
  rw [connection_step]
  cases op.link? with
  | none => rfl
  | some server => exact Connection.takes_link _ server

/-- A collaborator is called for what the operation asks of it. -/
theorem calls_step (s : Session Server) (op : Op Server) :
    (s.step op).calls = op.call?.toList.filter s.client.connection.takes := by
  have host (f : Host → Logged Host) : (s.changeHost f).calls = [] := by
    unfold changeHost
    split <;> rfl
  have editor (file : Option Path) (f : Editor → Editor) : (s.changeEditor file f).calls = [] := by
    unfold changeEditor
    split
    · rfl
    · split <;> rfl
  have heard (call : Call Server) (taken : Bool) (h : s.client.connection.takes call = taken) :
      (if taken = true then [call] else []) = [call].filter s.client.connection.takes := by
    cases taken <;> simp [h]
  cases op
  case openEditor => exact host _
  case openAndSelect => exact host _
  case setCaret => exact editor _ _
  case selectRegion => exact editor _ _
  case connect server => exact heard (.connected server) _ rfl
  case requestStart => exact heard .start _ rfl
  case reportProgress message => exact heard (.report message) _ rfl
  case reportFailure failure => exact heard (.failed failure) _ rfl
  all_goals rfl

/-! ### Runs -/

/-- The latest operation that connects or disconnects decides whether a server is connected, and the
latest that connects decides which server is remembered. -/
theorem connection_run (s : Session Server) (ops : List (Op Server)) :
    (s.run ops).client.connection.connected =
      (ops.filterMap Op.link?).getLast?.elim s.client.connection.connected Option.isSome ∧
    (s.run ops).client.connection.server =
      (ops.filterMap Op.link?).reduceOption.getLast?.or s.client.connection.server := by
  induction ops using List.reverseRecOn with
  | nil => exact ⟨rfl, rfl⟩
  | append_singleton ops op ih =>
    obtain ⟨hconnected, hserver⟩ := ih
    rw [run_append, run_cons, run_nil, connection_step, List.filterMap_append]
    cases hl : op.link? with
    | none =>
      rw [List.filterMap_cons_none hl, List.filterMap_nil, List.append_nil]
      exact ⟨hconnected, hserver⟩
    | some server =>
      rw [List.filterMap_cons_some hl, List.filterMap_nil, List.getLast?_concat,
        List.reduceOption_append, List.reduceOption_singleton]
      refine ⟨rfl, ?_⟩
      cases server with
      | none => rwa [Option.toList_none, List.append_nil]
      | some server =>
        rw [Option.toList_some, List.getLast?_concat]
        rfl

theorem takes_run (s : Session Server) (ops : List (Op Server)) :
    (s.run ops).client.connection.takes = s.client.connection.takes := by
  induction ops generalizing s with
  | nil => rfl
  | cons op ops ih => rw [run_cons, ih, takes_step]

/-- The calls of a run are those that its operations ask for, each once and in order, as far as
there are collaborators to take them. -/
theorem calls_run (s : Session Server) (ops : List (Op Server)) :
    s.calls ops = (ops.filterMap Op.call?).filter s.client.connection.takes := by
  induction ops generalizing s with
  | nil => rfl
  | cons op ops ih =>
    rw [calls, ih, calls_step, takes_step, ← List.filter_append]
    congr 1
    cases hc : op.call? <;> simp [hc]

/-- A run of a new client, whatever collaborators it has. A server is connected exactly if the latest
operation that connects or disconnects is one that connects, and the server that connected last is
remembered. The calls are those that the operations ask for: each connection is told to the listener
with its server, each request for a start goes to the starter, and each report to the reporter, once
and in this order; a collaborator that is absent is not called. No other operation changes the
connection or calls anyone. -/
theorem collaborators_run (hasStarter hasListener hasReporter : Bool) (w : World)
    (ops : List (Op Server)) :
    let connection : Connection Server := { hasStarter, hasListener, hasReporter }
    let new : Session Server := ⟨{ connection }, w⟩
    let s := new.run ops
    let links := ops.filterMap Op.link?
    (s.client.connection.connected = true ↔ ∃ server, links.getLast? = some (some server)) ∧
    s.client.connection.server = links.reduceOption.getLast? ∧
    new.calls ops = (ops.filterMap Op.call?).filter connection.takes ∧
    ∀ op,
      ((s.step op).session.client.connection =
        match op.link? with
        | none => s.client.connection
        | some server => s.client.connection.link server) ∧
      (s.step op).calls = op.call?.toList.filter connection.takes := by
  intro connection new s links
  obtain ⟨hconnected, hserver⟩ := new.connection_run ops
  refine ⟨?_, ?_, new.calls_run ops, fun op => ⟨s.connection_step op, ?_⟩⟩
  · refine (iff_of_eq (congrArg (· = true) hconnected)).trans ?_
    change links.getLast?.elim false Option.isSome = true ↔ _
    rcases links.getLast? with _ | _ | server <;> simp
  · exact hserver.trans Option.or_none
  · rw [calls_step, takes_run]

end Session
end EditorSession
