import EditorSession.Connection
import EditorSession.Search.Build
import EditorSession.ShowDocument

/-! The client's side of a language server session.

A client owns the connection, the diagnostics of every file, the signature help on display and the
search results, and shows them through the host that is attached to it. Without a host only the
diagnostics are kept up to date. -/

namespace EditorSession

structure Client (Server : Type) where
  host : Option Host := none
  connection : Connection Server := {}
  diagnostics : DiagnosticStore := {}
  signature : Option ShownSignature := none
  searchResults : SearchResults := {}
deriving Repr

namespace Client

variable {Server : Type}

/-! ### Host and session -/

def attachHost (c : Client Server) (h : Host) : Client Server := { c with host := some h }

def detachHost (c : Client Server) : Client Server := { c with host := none }

/-- Drops what the client knows of the session. The host keeps what it shows. -/
def endSession (c : Client Server) : Client Server :=
  { c with diagnostics := c.diagnostics.clear, signature := none, searchResults := {} }

/-! ### Diagnostics -/

/-- The host with the list of all diagnostics and, in the editor of `file`, those of the file. -/
def showDiagnostics (h : Host) (cwd : Path) (store : DiagnosticStore) (file : Path) : Logged Host := do
  let h ← h.showDiagnostics store.groups
  match store.get? file with
  | some diagnostics => h.setDiagnostics cwd file diagnostics
  | none => pure h

/-- The file whose diagnostics a publication replaces: one that is not empty and whose URI names a
regular file. -/
def publishTarget? (w : World) (p : SparsePublication) : Option Path :=
  if p.list.isEmpty then none
  else
    match p.uri with
    | none => none
    | some uri => (w.resolve uri).toOption

/-- Takes the diagnostics of a file. An empty publication only sets the flag of the host, and the
file keeps what it had. -/
def publish (c : Client Server) (w : World) (p : SparsePublication) : Logged (Client Server) :=
  let host := c.host.map fun h => { h with diagnosticsEmpty := p.list.isEmpty }
  match publishTarget? w p with
  | none => pure { c with host }
  | some file =>
    let diagnostics := c.diagnostics.replace file p.list
    match host with
    | none => pure { c with diagnostics }
    | some h => do
      let h ← showDiagnostics h w.cwd diagnostics file
      pure { c with diagnostics, host := some h }

/-- Hands highlights to the editor of their file. -/
def highlight (c : Client Server) (cwd : Path) (highlights : Highlights) : Logged (Client Server) :=
  match c.host, highlights.uri.filePath? with
  | some h, some file => do
    let h ← h.setHighlights cwd file highlights
    pure { c with host := some h }
  | _, _ => pure c

def telemetry (c : Client Server) (event : Json) : Logged (Client Server) :=
  .withNotice (.telemetry event) c

/-! ### Signature help -/

def hideSignature (c : Client Server) : Client Server :=
  { c with signature := none, host := c.host.map Host.hideSignature }

/-- Shows the signature with the most parameters above the caret of `file`. The display is hidden if
there is no such signature, its label is malformed, or no editor shows the file. -/
def showSignature (c : Client Server) (cwd : Path) (help : Option SignatureHelp) (file : Path) :
    Logged (Client Server) :=
  match c.host, help.bind fun help => help.selected?.map (help, ·) with
  | none, _ | _, none => pure c.hideSignature
  | some h, some (help, signature) =>
    match signature.format? help.activeParameter with
    | none => .withNotice (.malformedLabel signature.label) c.hideSignature
    | some label =>
      match h.editor? cwd file with
      | none => pure c.hideSignature
      | some editor => do
        let h ← h.showSignature editor label
        let shown : ShownSignature :=
          { candidates := help.signatures, activeParameter := help.activeParameter, label }
        pure { c with host := some h, signature := some shown }

/-! ### Places -/

/-- Replaces the search results with those of the given places. -/
def showLocations (c : Client Server) (w : World) (locations : List SparseLocation) :
    Logged (Client Server) :=
  match c.host with
  | none => pure c
  | some h =>
    let h := { h with searchEmpty := locations.isEmpty }
    if locations.isEmpty then pure { c with host := some h.clearSearchResults, searchResults := {} }
    else do
      let results ← Search.build w (h.openText w.cwd) locations
      let h ← h.showSearchResults results
      pure { c with host := some h, searchResults := results }

/-- Shows the targets of links as places. An empty list of links changes nothing. -/
def showLinks (c : Client Server) (w : World) (links : List SparseLink) : Logged (Client Server) :=
  if links.isEmpty then pure c
  else c.showLocations w ((links.filterMap SparseLink.target?).map Location.toSparse)

/-! ### Documents -/

/-- The client after a request to show a document, and whether it is shown. -/
def showDocument (c : Client Server) (w : World) (p : SparseShowRequest) :
    Logged (Client Server × Bool) :=
  match c.host with
  | none => pure (c, false)
  | some h => do
    let (h, shown) ← h.showDocument w p
    pure ({ c with host := some h }, shown)

end Client

end EditorSession
