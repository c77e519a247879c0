/-! Where the signature popup goes. Lengths are single-precision numbers in units of the display. -/

namespace EditorSession

/-- The caret of an editor: its horizontal place, the lower edge of its line, the height of a row,
and how far the editor is scrolled. -/
structure CursorGeometry where
  x : Float32
  y : Float32
  rowHeight : Float32
  scrollY : Float32
deriving Repr

structure Size where
  width : Float32
  height : Float32
deriving Repr

/-- The window that the popup has to stay in; `top` is how far the editor lies below its origin. -/
structure Viewport where
  top : Float32
  width : Float32
  height : Float32
deriving Repr

structure Point where
  x : Float32
  y : Float32
deriving Repr

namespace Popup

/-- A length, or zero if it is negative or not a number. -/
def nonnegative (x : Float32) : Float32 := if 0 < x then x else 0

/-- The nearest number from zero to `most`. What is not a number stays so. -/
def clamp (x most : Float32) : Float32 :=
  let x := if x < 0 then 0 else x
  if most < x then most else x

/-- The place of a popup: centred on the caret, above its line, inside the window. -/
def place (cursor : CursorGeometry) (popup : Size) (viewport : Viewport) : Point :=
  let x := cursor.x - popup.width / 2
  let y := viewport.top + cursor.y - cursor.rowHeight - cursor.scrollY - popup.height
  { x := clamp x (nonnegative (viewport.width - popup.width))
    y := clamp y (nonnegative (viewport.height - popup.height)) }

end Popup

end EditorSession
