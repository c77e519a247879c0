import EditorSession.Host
import EditorSession.Protocol.ShowRequest

/-! Showing a document with a selection.

The request succeeds if it has a URI and a selection, and the URI names a regular file whose bytes
are UTF-8. The active editor is used if it shows the file; otherwise the host opens it. A request
that fails changes nothing. -/

namespace EditorSession
namespace Host

/-- Shows a file that is known to be readable. -/
def present (h : Host) (w : World) (file : Path) (selection : Range) : Logged Host :=
  match h.active, h.activeEditor? with
  | some i, some e =>
    if Path.sameFile w.cwd e.file file then pure (h.modifyEditor i (·.applySelection selection))
    else do
      Logged.withNotice (.openingDocument file) ()
      h.openAndSelect w file selection
  | _, _ => do
    Logged.withNotice (.openingDocument file) ()
    h.openAndSelect w file selection

/-- The file and the selection that a request asks for, if the file can be shown. -/
def showTarget? (w : World) (p : SparseShowRequest) : Option (Path × Range) :=
  match p.uri, p.selection with
  | some uri, some selection =>
    match w.resolve uri with
    | .error _ => none
    | .ok file =>
      match w.readUtf8 file with
      | .error _ => none
      | .ok _ => some (file, selection)
  | _, _ => none

/-- The host after a request, and whether the document is shown. -/
def showDocument (h : Host) (w : World) (p : SparseShowRequest) : Logged (Host × Bool) :=
  match showTarget? w p with
  | none => pure (h, false)
  | some (file, selection) => do
    let h ← h.present w file selection
    pure (h, true)

end Host

end EditorSession
