import EditorSession.Protocol.Location

/-! Diagnostics, and the notification that publishes those of one file. -/

namespace EditorSession

/-- The code of a diagnostic. -/
inductive DiagnosticCode where
  | number (n : Int)
  | text (s : String)
deriving DecidableEq, Repr

/-- A place that helps to understand a diagnostic. -/
structure RelatedInformation where
  location : Location
  message : String
deriving DecidableEq, Repr

/-- A severity is any number of 32 bits; the four that have a name are `error`, `warning`,
`information` and `hint`. -/
abbrev Severity := Int

namespace Severity

def error : Severity := 1

def warning : Severity := 2

def information : Severity := 3

def hint : Severity := 4

end Severity

structure Diagnostic where
  range : Range
  severity : Option Severity := none
  code : Option DiagnosticCode := none
  /-- Where the code is explained. -/
  codeHref : Option Url := none
  source : Option String := none
  message : String
  related : Option (List RelatedInformation) := none
  tags : Option (List Int) := none
  data : Option Json := none
deriving Repr, Inhabited

namespace DiagnosticCode

def decode? : Json → Option DiagnosticCode
  | .str s => some (.text s)
  | j => (Json.int32? j).map .number

def encode : DiagnosticCode → Json
  | number n => .int n
  | text s => .str s

end DiagnosticCode

namespace RelatedInformation

def decode? (j : Json) : Option RelatedInformation := do
  let r ← Record.read? 2 j
  some
    { location := ← (r.slot 0 "location").required Location.decode?
      message := ← (r.slot 1 "message").required Json.string? }

def encode (i : RelatedInformation) : Json :=
  .obj [("location", i.location.encode), ("message", .str i.message)]

end RelatedInformation

namespace Diagnostic

/-- The description of a code is a record of its own. -/
def decodeHref? (j : Json) : Option Url := do
  let r ← Record.read? 1 j
  (r.slot 0 "href").required Json.url?

def encodeHref (href : Url) : Json := .obj [("href", .ofUrl href)]

def decode? (j : Json) : Option Diagnostic := do
  let r ← Record.read? 9 j
  some
    { range := ← (r.slot 0 "range").required Range.decode?
      severity := ← (r.slot 1 "severity").optional Json.int32?
      code := ← (r.slot 2 "code").optional DiagnosticCode.decode?
      codeHref := ← (r.slot 3 "codeDescription").optional decodeHref?
      source := ← (r.slot 4 "source").optional Json.string?
      message := ← (r.slot 5 "message").required Json.string?
      related := ← (r.slot 6 "relatedInformation").optional (Json.list? RelatedInformation.decode?)
      tags := ← (r.slot 7 "tags").optional (Json.list? Json.int32?)
      data := ← (r.slot 8 "data").optional some }

def encode (d : Diagnostic) : Json :=
  Json.ofPresent
    [("range", some d.range.encode), ("severity", d.severity.map .int),
      ("code", d.code.map DiagnosticCode.encode), ("codeDescription", d.codeHref.map encodeHref),
      ("source", d.source.map .str), ("message", some (.str d.message)),
      ("relatedInformation", d.related.map (Json.ofList RelatedInformation.encode)),
      ("tags", d.tags.map (Json.ofList .int)), ("data", d.data)]

end Diagnostic

/-- The diagnostics of one file. -/
structure Publication where
  uri : Url
  diagnostics : List Diagnostic
  version : Option Int
deriving Repr

/-- The diagnostics of one file, any part of which may be absent. An absent list counts as an empty
one. -/
structure SparsePublication where
  uri : Option Url := none
  diagnostics : Option (List Diagnostic) := none
  version : Option Int := none
deriving Repr, Inhabited

namespace Publication

def decode? (j : Json) : Option Publication := do
  let r ← Record.read? 3 j
  some
    { uri := ← (r.slot 0 "uri").required Json.url?
      diagnostics := ← (r.slot 1 "diagnostics").required (Json.list? Diagnostic.decode?)
      version := ← (r.slot 2 "version").optional Json.int32? }

def toSparse (p : Publication) : SparsePublication where
  uri := some p.uri
  diagnostics := some p.diagnostics
  version := p.version

end Publication

namespace SparsePublication

def decode? (j : Json) : Option SparsePublication := do
  let r ← Record.read? 3 j
  some
    { uri := ← (r.slot 0 "uri").allowed Json.url?
      diagnostics := ← (r.slot 1 "diagnostics").allowed (Json.list? Diagnostic.decode?)
      version := ← (r.slot 2 "version").allowed Json.int32? }

def encode (p : SparsePublication) : Json :=
  .obj
    [("uri", Json.orNull .ofUrl p.uri),
      ("diagnostics", Json.orNull (Json.ofList Diagnostic.encode) p.diagnostics),
      ("version", Json.orNull .int p.version)]

/-- The list that is published. -/
def list (p : SparsePublication) : List Diagnostic := p.diagnostics.getD []

end SparsePublication

end EditorSession
