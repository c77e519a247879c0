import EditorSession.Diagnostics.Store
import EditorSession.Editor
import EditorSession.Notice
import EditorSession.Signature.Label

/-! The application that shows what a client computes.

A host has editors in the order in which they were opened, one of them active, and the lists and the
popup that the client sets. No two editors show the same file: opening a file again replaces the
editor that shows it. Editors are found by the absolute form of their path, seen from `cwd`. -/

namespace EditorSession

structure Host where
  editors : List Editor := []
  /-- The place of the editor that has the focus. -/
  active : Option Nat := none
  viewport : Viewport
  diagnosticsEmpty : Bool := true
  diagnosticGroups : List DiagnosticGroup := []
  searchEmpty : Bool := true
  searchResults : SearchResults := {}
  signatureLabel : Option String := none
  signaturePosition : Option Point := none
deriving Repr

namespace Host

/-- A host without editors, with a window of the given cells. -/
def ofSize (columns rows : UInt16) : Host where
  viewport := { top := 0, width := columns.toFloat32, height := rows.toFloat32 }

/-! ### Editors -/

/-- The place of the editor that shows `file`. -/
def indexOf? (h : Host) (cwd file : Path) : Option Nat :=
  h.editors.findIdx? fun e => Path.sameFile cwd e.file file

def editor? (h : Host) (cwd file : Path) : Option Editor :=
  (h.indexOf? cwd file).bind fun i => h.editors[i]?

def activeEditor? (h : Host) : Option Editor := h.active.bind fun i => h.editors[i]?

def modifyEditor (h : Host) (index : Nat) (f : Editor → Editor) : Host :=
  { h with editors := h.editors.modify index f }

/-- The host with `e` as the active editor, in place of one that shows the same file. -/
def openEditor (h : Host) (cwd : Path) (e : Editor) : Host :=
  match h.indexOf? cwd e.file with
  | some i => { h with editors := h.editors.set i e, active := some i }
  | none => { h with editors := h.editors ++ [e], active := some h.editors.length }

/-- Makes the editor of a file active, opening it from disk if need be, and applies a selection. -/
def openAndSelect (h : Host) (w : World) (file : Path) (selection : Range) : Logged Host :=
  match h.indexOf? w.cwd file with
  | some i =>
    pure { h.modifyEditor i (·.applySelection selection) with active := some i }
  | none =>
    match w.readText file with
    | .ok text =>
      .withNotice (.opened file)
        (h.openEditor w.cwd ((Editor.ofText file text).applySelection selection))
    | .error cause => .withNotice (.openFailed file cause) h

/-- Gives diagnostics to the editor that shows `file`, if there is one. -/
def setDiagnostics (h : Host) (cwd file : Path) (diagnostics : List Diagnostic) : Logged Host :=
  match h.indexOf? cwd file, h.editor? cwd file with
  | some i, some e =>
    .withNotice (.editorDiagnostics e.file diagnostics.length)
      (h.modifyEditor i fun e => { e with diagnostics })
  | _, _ => pure h

/-- Gives highlights to the editor that shows `file`, if there is one. -/
def setHighlights (h : Host) (cwd file : Path) (highlights : Highlights) : Logged Host :=
  match h.indexOf? cwd file, h.editor? cwd file with
  | some i, some e =>
    .withNotice (.editorHighlights e.file highlights.tokens.length)
      (h.modifyEditor i fun e => { e with highlights := some highlights })
  | _, _ => pure h

/-- The text of the editor that shows a file. -/
def openText (h : Host) (cwd file : Path) : Option Content :=
  (h.editor? cwd file).map Editor.content

/-! ### Lists -/

def showDiagnostics (h : Host) (groups : List DiagnosticGroup) : Logged Host :=
  .withNotice (.showingDiagnostics groups.length) { h with diagnosticGroups := groups }

def showSearchResults (h : Host) (results : SearchResults) : Logged Host :=
  .withNotice (.showingResults results.total results.size) { h with searchResults := results }

def clearSearchResults (h : Host) : Host := { h with searchResults := {} }

/-! ### Signature popup -/

/-- The size of a label: a cell for every character. -/
def labelSize (text : String) : Size where
  width := Float32.ofNat text.toList.length
  height := 1

/-- Shows a label above the caret of an editor. -/
def showSignature (h : Host) (e : Editor) (label : StyledLabel) : Logged Host :=
  let position := Popup.place e.cursorGeometry (labelSize label.text) h.viewport
  .withNotice (.signatureAt position)
    { h with signatureLabel := some label.text, signaturePosition := some position }

def hideSignature (h : Host) : Host := { h with signatureLabel := none, signaturePosition := none }

end Host

end EditorSession
