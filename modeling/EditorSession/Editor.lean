import EditorSession.Protocol.Diagnostic
import EditorSession.Protocol.Highlights
import EditorSession.Signature.Popup

/-! An editor that shows one file. Its cells are one unit wide and one unit high. -/

namespace EditorSession

structure Editor where
  file : Path
  content : Content
  cursor : Position := {}
  selection : Option Range := none
  diagnostics : List Diagnostic := []
  highlights : Option Highlights := none
deriving Repr

namespace Editor

/-- An editor on a text, with its caret at the start. -/
def ofText (file : Path) (text : String) : Editor := { file, content := ⟨text⟩ }

/-- The editor with a caret and no selection. -/
def setCaret (e : Editor) (p : Position) : Editor := { e with cursor := p, selection := none }

/-- The editor with a selection, its caret at the end of it. -/
def selectRegion (e : Editor) (r : Range) : Editor :=
  { e with cursor := r.stop, selection := some r }

/-- Places a caret for an empty range, and selects any other. -/
def applySelection (e : Editor) (r : Range) : Editor :=
  if r.start = r.stop then e.setCaret r.start else e.selectRegion r

/-- The caret in units of the display. The lower edge of a line is one row below its number. -/
def cursorGeometry (e : Editor) : CursorGeometry where
  x := e.cursor.character.toFloat32
  y := (e.cursor.line + 1).toFloat32
  rowHeight := 1
  scrollY := 0

end Editor

end EditorSession
