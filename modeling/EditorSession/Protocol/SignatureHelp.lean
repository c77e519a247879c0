import EditorSession.Protocol.Record

/-! Signature help: the signatures that a call may have, and which of their parameters is active. -/

namespace EditorSession

/-- What a parameter is called: its own text, or the part of the signature's label between two
columns. -/
inductive ParameterLabel where
  | text (s : String)
  | columns (start stop : UInt32)
deriving DecidableEq, Repr

inductive MarkupKind where
  | plainText
  | markdown
deriving DecidableEq, Repr

inductive Documentation where
  | text (s : String)
  | markup (kind : MarkupKind) (value : String)
deriving DecidableEq, Repr

structure Parameter where
  label : ParameterLabel
  documentation : Option Documentation := none
deriving DecidableEq, Repr

structure Signature where
  label : String
  documentation : Option Documentation := none
  parameters : Option (List Parameter) := none
  activeParameter : Option UInt32 := none
deriving DecidableEq, Repr, Inhabited

structure SignatureHelp where
  signatures : List Signature
  activeSignature : Option UInt32 := none
  activeParameter : Option UInt32 := none
deriving DecidableEq, Repr, Inhabited

namespace ParameterLabel

def decode? : Json → Option ParameterLabel
  | .str s => some (text s)
  | .arr [start, stop] => do some (columns (← start.word?) (← stop.word?))
  | _ => none

def encode : ParameterLabel → Json
  | text s => .str s
  | columns start stop => .arr [.ofWord start, .ofWord stop]

end ParameterLabel

namespace MarkupKind

def ofName? : String → Option MarkupKind
  | "plaintext" => some plainText
  | "markdown" => some markdown
  | _ => none

/-- A kind is its name, or an object whose one member has that name and is null. -/
def decode? : Json → Option MarkupKind
  | .str name => ofName? name
  | .obj [(name, .null)] => ofName? name
  | _ => none

def name : MarkupKind → String
  | plainText => "plaintext"
  | markdown => "markdown"

end MarkupKind

namespace Documentation

def decode? : Json → Option Documentation
  | .str s => some (text s)
  | j => do
    let r ← Record.read? 2 j
    some (markup (← (r.slot 0 "kind").required MarkupKind.decode?)
      (← (r.slot 1 "value").required Json.string?))

def encode : Documentation → Json
  | text s => .str s
  | markup kind value => .obj [("kind", .str kind.name), ("value", .str value)]

end Documentation

namespace Parameter

def decode? (j : Json) : Option Parameter := do
  let r ← Record.read? 2 j
  some
    { label := ← (r.slot 0 "label").required ParameterLabel.decode?
      documentation := ← (r.slot 1 "documentation").optional Documentation.decode? }

def encode (p : Parameter) : Json :=
  Json.ofPresent
    [("label", some p.label.encode), ("documentation", p.documentation.map Documentation.encode)]

end Parameter

namespace Signature

def decode? (j : Json) : Option Signature := do
  let r ← Record.read? 4 j
  some
    { label := ← (r.slot 0 "label").required Json.string?
      documentation := ← (r.slot 1 "documentation").optional Documentation.decode?
      parameters := ← (r.slot 2 "parameters").optional (Json.list? Parameter.decode?)
      activeParameter := ← (r.slot 3 "activeParameter").optional Json.word? }

def encode (s : Signature) : Json :=
  Json.ofPresent
    [("label", some (.str s.label)), ("documentation", s.documentation.map Documentation.encode),
      ("parameters", s.parameters.map (Json.ofList Parameter.encode)),
      ("activeParameter", s.activeParameter.map .ofWord)]

/-- The parameters; an absent list counts as an empty one. -/
def parameterList (s : Signature) : List Parameter := s.parameters.getD []

end Signature

namespace SignatureHelp

def decode? (j : Json) : Option SignatureHelp := do
  let r ← Record.read? 3 j
  some
    { signatures := ← (r.slot 0 "signatures").required (Json.list? Signature.decode?)
      activeSignature := ← (r.slot 1 "activeSignature").optional Json.word?
      activeParameter := ← (r.slot 2 "activeParameter").optional Json.word? }

def encode (h : SignatureHelp) : Json :=
  Json.ofPresent
    [("signatures", some (Json.ofList Signature.encode h.signatures)),
      ("activeSignature", h.activeSignature.map .ofWord),
      ("activeParameter", h.activeParameter.map .ofWord)]

end SignatureHelp

end EditorSession
