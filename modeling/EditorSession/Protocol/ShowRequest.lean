import EditorSession.Protocol.Location

/-! The request to show a document. -/

namespace EditorSession

structure ShowRequest where
  uri : Url
  external : Option Bool
  takeFocus : Option Bool
  selection : Option Range
deriving DecidableEq, Repr

/-- A request to show a document, any part of which may be absent. -/
structure SparseShowRequest where
  uri : Option Url := none
  external : Option Bool := none
  takeFocus : Option Bool := none
  selection : Option Range := none
deriving DecidableEq, Repr, Inhabited

namespace ShowRequest

def decode? (j : Json) : Option ShowRequest := do
  let r ← Record.read? 4 j
  some
    { uri := ← (r.slot 0 "uri").required Json.url?
      external := ← (r.slot 1 "external").optional Json.bool?
      takeFocus := ← (r.slot 2 "takeFocus").optional Json.bool?
      selection := ← (r.slot 3 "selection").optional Range.decode? }

def toSparse (p : ShowRequest) : SparseShowRequest where
  uri := some p.uri
  external := p.external
  takeFocus := p.takeFocus
  selection := p.selection

end ShowRequest

namespace SparseShowRequest

def decode? (j : Json) : Option SparseShowRequest := do
  let r ← Record.read? 4 j
  some
    { uri := ← (r.slot 0 "uri").allowed Json.url?
      external := ← (r.slot 1 "external").allowed Json.bool?
      takeFocus := ← (r.slot 2 "takeFocus").allowed Json.bool?
      selection := ← (r.slot 3 "selection").allowed Range.decode? }

def encode (p : SparseShowRequest) : Json :=
  .obj
    [("uri", Json.orNull .ofUrl p.uri), ("external", Json.orNull .bool p.external),
      ("takeFocus", Json.orNull .bool p.takeFocus),
      ("selection", Json.orNull Range.encode p.selection)]

end SparseShowRequest

end EditorSession
