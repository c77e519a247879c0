import EditorSession.Protocol.Location

/-! Semantic highlights of one document. -/

namespace EditorSession

/-- A highlighted range; `kind` is a category such as `field` or `method`. -/
structure HighlightToken where
  range : Range
  kind : String
deriving DecidableEq, Repr

structure Highlights where
  uri : Url
  tokens : List HighlightToken := []
deriving DecidableEq, Repr

namespace HighlightToken

def decode? (j : Json) : Option HighlightToken := do
  let r ← Record.read? 2 j
  some
    { range := ← (r.slot 0 "range").required Range.decode?
      kind := ← (r.slot 1 "kind").required Json.string? }

def encode (t : HighlightToken) : Json := .obj [("range", t.range.encode), ("kind", .str t.kind)]

end HighlightToken

namespace Highlights

def decode? (j : Json) : Option Highlights := do
  let r ← Record.read? 2 j
  some
    { uri := ← (r.slot 0 "uri").required Json.url?
      tokens := ← (r.slot 1 "tokens").withDefault [] (Json.list? HighlightToken.decode?) }

def encode (h : Highlights) : Json :=
  .obj [("uri", .ofUrl h.uri), ("tokens", Json.ofList HighlightToken.encode h.tokens)]

end Highlights

end EditorSession
