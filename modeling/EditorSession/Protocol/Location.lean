import EditorSession.Protocol.Record
import EditorSession.Text.Content

/-! Positions, ranges, and places in files.

Servers now and then send a place without its URI or its range. A `SparseLocation` keeps such an
entry readable, so that it can be passed over on its own; `SparseLocation.complete?` is the full
location if there is one. What the full record accepts, the sparse one accepts too. -/

namespace EditorSession

namespace Position

def decode? (j : Json) : Option Position := do
  let r ← Record.read? 2 j
  some
    { line := ← (r.slot 0 "line").required Json.word?
      character := ← (r.slot 1 "character").required Json.word? }

def encode (p : Position) : Json :=
  .obj [("line", .ofWord p.line), ("character", .ofWord p.character)]

end Position

namespace Range

def decode? (j : Json) : Option Range := do
  let r ← Record.read? 2 j
  some
    { start := ← (r.slot 0 "start").required Position.decode?
      stop := ← (r.slot 1 "end").required Position.decode? }

def encode (r : Range) : Json := .obj [("start", r.start.encode), ("end", r.stop.encode)]

end Range

/-- A place in a file. -/
structure Location where
  uri : Url
  range : Range
deriving DecidableEq, Repr

/-- A place in a file, either part of which may be absent. -/
structure SparseLocation where
  uri : Option Url := none
  range : Option Range := none
deriving DecidableEq, Repr, Inhabited

/-- A link from a place in one file to a place in another. -/
structure LocationLink where
  originRange : Option Range
  targetUri : Url
  targetRange : Range
  targetSelection : Range
deriving DecidableEq, Repr

/-- A link, any part of which may be absent. -/
structure SparseLink where
  originRange : Option Range := none
  targetUri : Option Url := none
  targetRange : Option Range := none
  targetSelection : Option Range := none
deriving DecidableEq, Repr, Inhabited

namespace Location

def decode? (j : Json) : Option Location := do
  let r ← Record.read? 2 j
  some
    { uri := ← (r.slot 0 "uri").required Json.url?
      range := ← (r.slot 1 "range").required Range.decode? }

def encode (l : Location) : Json := .obj [("uri", .ofUrl l.uri), ("range", l.range.encode)]

def toSparse (l : Location) : SparseLocation := { uri := some l.uri, range := some l.range }

end Location

namespace SparseLocation

def decode? (j : Json) : Option SparseLocation := do
  let r ← Record.read? 2 j
  some
    { uri := ← (r.slot 0 "uri").allowed Json.url?
      range := ← (r.slot 1 "range").allowed Range.decode? }

def encode (l : SparseLocation) : Json :=
  .obj [("uri", Json.orNull .ofUrl l.uri), ("range", Json.orNull Range.encode l.range)]

/-- The location, if both parts are present. -/
def complete? (l : SparseLocation) : Option Location :=
  match l.uri, l.range with
  | some uri, some range => some ⟨uri, range⟩
  | _, _ => none

end SparseLocation

namespace LocationLink

def decode? (j : Json) : Option LocationLink := do
  let r ← Record.read? 4 j
  some
    { originRange := ← (r.slot 0 "originSelectionRange").optional Range.decode?
      targetUri := ← (r.slot 1 "targetUri").required Json.url?
      targetRange := ← (r.slot 2 "targetRange").required Range.decode?
      targetSelection := ← (r.slot 3 "targetSelectionRange").required Range.decode? }

def toSparse (l : LocationLink) : SparseLink where
  originRange := l.originRange
  targetUri := some l.targetUri
  targetRange := some l.targetRange
  targetSelection := some l.targetSelection

end LocationLink

namespace SparseLink

def decode? (j : Json) : Option SparseLink := do
  let r ← Record.read? 4 j
  some
    { originRange := ← (r.slot 0 "originSelectionRange").allowed Range.decode?
      targetUri := ← (r.slot 1 "targetUri").allowed Json.url?
      targetRange := ← (r.slot 2 "targetRange").allowed Range.decode?
      targetSelection := ← (r.slot 3 "targetSelectionRange").allowed Range.decode? }

def encode (l : SparseLink) : Json :=
  .obj
    [("originSelectionRange", Json.orNull Range.encode l.originRange),
      ("targetUri", Json.orNull .ofUrl l.targetUri),
      ("targetRange", Json.orNull Range.encode l.targetRange),
      ("targetSelectionRange", Json.orNull Range.encode l.targetSelection)]

/-- The place that a link leads to, if its file and range are present. -/
def target? (l : SparseLink) : Option Location :=
  match l.targetUri, l.targetRange with
  | some uri, some range => some ⟨uri, range⟩
  | _, _ => none

end SparseLink

end EditorSession
