import EditorSession.Notice

/-! The connection to the language server.

A connection remembers whether a server is connected, and the latest server even after it is gone.
It may have collaborators: one that starts the server, one that listens for connections, and one
that reports progress and failures. Each operation says which of them it calls. -/

namespace EditorSession

/-- A call of a collaborator. -/
inductive Call (Server : Type) where
  | start
  | connected (server : Server)
  | report (message : String)
  | failed (failure : Failure)
deriving Repr

structure Connection (Server : Type) where
  connected : Bool := false
  /-- The server that connected last. -/
  server : Option Server := none
  hasStarter : Bool := false
  hasListener : Bool := false
  hasReporter : Bool := false
deriving Repr

/-- What an operation leaves: the connection, its notices, and the calls it makes. -/
structure Reaction (Server : Type) where
  connection : Connection Server
  notices : List Notice
  calls : List (Call Server)
deriving Repr

namespace Connection

variable {Server : Type}

def connect (c : Connection Server) (server : Server) : Reaction Server where
  connection := { c with connected := true, server := some server }
  notices := [.serverConnected]
  calls := if c.hasListener then [.connected server] else []

/-- Marks the connection as lost. Nobody is called. -/
def disconnect (c : Connection Server) : Reaction Server where
  connection := { c with connected := false }
  notices := [.serverDisconnected]
  calls := []

/-- Asks the starter for a server, connected or not. -/
def requestStart (c : Connection Server) : Reaction Server where
  connection := c
  notices := if c.hasStarter then [.requestingStart] else [.noStarter]
  calls := if c.hasStarter then [.start] else []

def reportProgress (c : Connection Server) (message : String) : Reaction Server where
  connection := c
  notices := [.progress message]
  calls := if c.hasReporter then [.report message] else []

def reportFailure (c : Connection Server) (failure : Failure) : Reaction Server where
  connection := c
  notices := [.connectionFailed failure]
  calls := if c.hasReporter then [.failed failure] else []

end Connection

end EditorSession
