import EditorSession.Client
import EditorSession.Message

/-! Routing of the server's messages.

A request is always answered and a notification never. Parameters that are absent or null count as
empty ones, but for highlights; those that do not decode give a notice and change nothing. -/

namespace EditorSession
namespace Client

variable {Server : Type}

def showDocumentMethod : String := "window/showDocument"

def publishMethod : String := "textDocument/publishDiagnostics"

def telemetryMethod : String := "telemetry/event"

def highlightMethod : String := "semanticHighlights"

/-- Parameters that may be absent or null. -/
def decodeLenient? {α : Type} (default : α) (decode : Json → Option α) : Option Json → Option α
  | none | some .null => some default
  | some j => decode j

def handleRequest (c : Client Server) (w : World) (method : String) (id : MessageId)
    (params : Option Json) : Logged (Client Server × Response) :=
  if method = showDocumentMethod then
    match decodeLenient? {} SparseShowRequest.decode? params with
    | some p => do
      let (c, shown) ← c.showDocument w p
      pure (c, ⟨id, .shown shown⟩)
    | none => .withNotice (.invalidParams method) (c, ⟨id, .shown false⟩)
  else pure (c, ⟨id, .methodNotFound⟩)

def handleNotification (c : Client Server) (w : World) (method : String) (params : Option Json) :
    Logged (Client Server) :=
  if method = publishMethod then
    match decodeLenient? {} SparsePublication.decode? params with
    | some p => c.publish w p
    | none => .withNotice (.droppedNotification method) c
  else if method = telemetryMethod then c.telemetry (params.getD .null)
  else if method = highlightMethod then
    match Highlights.decode? (params.getD .null) with
    | some h => c.highlight w.cwd h
    | none => .withNotice (.droppedNotification method) c
  else pure c

/-- The client after a message, and the response if the message is a request. -/
def dispatch (c : Client Server) (w : World) (m : Message) :
    Logged (Client Server × Option Response) :=
  match m.id with
  | some id => do
    let (c, response) ← c.handleRequest w m.method id m.params
    pure (c, some response)
  | none => do
    let c ← c.handleNotification w m.method m.params
    pure (c, none)

end Client

end EditorSession
