import EditorSession.Dispatch

/-! Runs of a client: what can happen to it, one operation after another.

An `Op` is anything that a server, a user, the host application or the disk does. `Session.step`
takes one and `Session.run` takes any number of them; both say what is answered and noted, and which
collaborators are called. -/

namespace EditorSession

inductive Op (Server : Type) where
  | openEditor (file : Path) (text : String)
  /-- Places the caret in the editor of a file, or in the active editor. -/
  | setCaret (file : Option Path) (position : Position)
  | selectRegion (file : Option Path) (range : Range)
  | openAndSelect (file : Path) (range : Range)
  | attachHost (host : Host)
  | detachHost
  | changeDisk (disk : Disk)
  | connect (server : Server)
  | disconnect
  | requestStart
  | reportProgress (message : String)
  | reportFailure (failure : Failure)
  | endSession
  | publish (p : SparsePublication)
  | highlight (highlights : Highlights)
  | telemetry (event : Json)
  | showSignature (help : Option SignatureHelp) (file : Path)
  | hideSignature
  | showLocations (locations : List SparseLocation)
  | showLinks (links : List SparseLink)
  | showDocument (p : SparseShowRequest)
  | dispatch (message : Message)

/-- What an operation answers. -/
inductive Answer where
  | done
  /-- The operation needs a host and there is none. -/
  | noHost
  /-- The operation needs an editor and there is none. -/
  | noEditor
  | shown (success : Bool)
  | responded (response : Option Response)
deriving DecidableEq, Repr

/-- A client and the world that it runs in. -/
structure Session (Server : Type) where
  client : Client Server
  world : World

/-- A session after an operation, and what the operation gave. -/
structure Turn (Server : Type) where
  session : Session Server
  answer : Answer := .done
  notices : List Notice := []
  calls : List (Call Server) := []

namespace Session

variable {Server : Type}

def withClient (s : Session Server) (c : Client Server) : Session Server := { s with client := c }

/-- A turn that ends with a client and its notices. -/
def logged (s : Session Server) (c : Logged (Client Server)) : Turn Server where
  session := s.withClient c.value
  notices := c.notices

def react (s : Session Server) (r : Reaction Server) : Turn Server where
  session := s.withClient { s.client with connection := r.connection }
  notices := r.notices
  calls := r.calls

/-- A turn in which the host changes. -/
def changeHost (s : Session Server) (f : Host → Logged Host) : Turn Server :=
  match s.client.host with
  | none => { session := s, answer := .noHost }
  | some h => s.logged ((f h).map fun h => { s.client with host := some h })

/-- The place of the editor of a file, or of the active editor. -/
def editorIndex? (s : Session Server) (h : Host) : Option Path → Option Nat
  | some file => h.indexOf? s.world.cwd file
  | none => h.activeEditor?.bind fun _ => h.active

/-- A turn in which one editor changes. -/
def changeEditor (s : Session Server) (file : Option Path) (f : Editor → Editor) : Turn Server :=
  match s.client.host with
  | none => { session := s, answer := .noHost }
  | some h =>
    match s.editorIndex? h file with
    | none => { session := s, answer := .noEditor }
    | some i => { session := s.withClient { s.client with host := some (h.modifyEditor i f) } }

def step (s : Session Server) : Op Server → Turn Server
  | .openEditor file text =>
    s.changeHost fun h => pure (h.openEditor s.world.cwd (.ofText file text))
  | .setCaret file position => s.changeEditor file (·.setCaret position)
  | .selectRegion file range => s.changeEditor file (·.selectRegion range)
  | .openAndSelect file range => s.changeHost fun h => h.openAndSelect s.world file range
  | .attachHost host => { session := s.withClient (s.client.attachHost host) }
  | .detachHost => { session := s.withClient s.client.detachHost }
  | .changeDisk disk => { session := { s with world := { s.world with disk } } }
  | .connect server => s.react (s.client.connection.connect server)
  | .disconnect => s.react s.client.connection.disconnect
  | .requestStart => s.react s.client.connection.requestStart
  | .reportProgress message => s.react (s.client.connection.reportProgress message)
  | .reportFailure failure => s.react (s.client.connection.reportFailure failure)
  | .endSession => { session := s.withClient s.client.endSession }
  | .publish p => s.logged (s.client.publish s.world p)
  | .highlight highlights => s.logged (s.client.highlight s.world.cwd highlights)
  | .telemetry event => s.logged (s.client.telemetry event)
  | .showSignature help file => s.logged (s.client.showSignature s.world.cwd help file)
  | .hideSignature => { session := s.withClient s.client.hideSignature }
  | .showLocations locations => s.logged (s.client.showLocations s.world locations)
  | .showLinks links => s.logged (s.client.showLinks s.world links)
  | .showDocument p =>
    let r := s.client.showDocument s.world p
    { session := s.withClient r.value.1, answer := .shown r.value.2, notices := r.notices }
  | .dispatch message =>
    let r := s.client.dispatch s.world message
    { session := s.withClient r.value.1, answer := .responded r.value.2, notices := r.notices }

/-- The session after operations, in order. -/
def run (s : Session Server) (ops : List (Op Server)) : Session Server :=
  ops.foldl (fun s op => (s.step op).session) s

@[simp] theorem run_nil (s : Session Server) : s.run [] = s := rfl

@[simp] theorem run_cons (s : Session Server) (op : Op Server) (ops : List (Op Server)) :
    s.run (op :: ops) = (s.step op).session.run ops := rfl

theorem run_append (s : Session Server) (ops later : List (Op Server)) :
    s.run (ops ++ later) = (s.run ops).run later := List.foldl_append

end Session

end EditorSession
