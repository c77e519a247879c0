import EditorSession.Json.Printer
import EditorSession.Json.Reader
import EditorSession.Json.Skip
import EditorSession.Protocol.Record

/-! JSON-RPC messages of the server, and the responses to them.

A message with an id is a request, one without is a notification. `Message.read?` reads a message
from its text: its own four members strictly and each at most once, the values of other members only
as to their form. -/

namespace EditorSession

inductive MessageId where
  | number (n : Int)
  | text (s : String)
  | null
deriving DecidableEq, Repr

structure Message where
  method : String
  params : Option Json
  id : Option MessageId
deriving Repr

namespace MessageId

def decode? : Json → Option MessageId
  | .int n =>
    if Int64.minValue.toInt ≤ n ∧ n ≤ Int64.maxValue.toInt then some (number n) else none
  | .str s => some (text s)
  | .null => some null
  | _ => none

def encode : MessageId → Json
  | number n => .int n
  | text s => .str s
  | null => .null

end MessageId

namespace Message

/-- The version of the protocol, which every message states. -/
def version : String := "2.0"

/-- The members of a message, in their order as items of an array. -/
def keys : List String := ["jsonrpc", "method", "params", "id"]

/-- The method is empty if it is absent. -/
def ofRecord? (r : Record) : Option Message := do
  let stated ← (r.slot 0 "jsonrpc").required Json.string?
  if stated ≠ version then none
  let method ← (r.slot 1 "method").withDefault "" Json.string?
  let params ← (r.slot 2 "params").present some
  let id ← (r.slot 3 "id").present MessageId.decode?
  some { method, params, id }

def decode? (j : Json) : Option Message := do ofRecord? (← Record.read? 4 j)

/-- The members of a message object from a key up to its closing brace. The values of members that
are not the message's own are passed over. -/
def readMembers : Nat → List (String × Json) → List Char → Option (Record × List Char)
  | 0, _, _ => none
  | fuel + 1, acc, cs =>
    match Json.key? cs with
    | none => none
    | some (key, rest) =>
      let member : Option (List (String × Json) × List Char) :=
        if key ∈ keys then
          if (Json.member? key acc).isSome then none
          else (Json.value? (Json.maxDepth - 1) rest).map fun (v, rest) => (acc ++ [(key, v)], rest)
        else (Json.skip? rest).map (acc, ·)
      match member with
      | none => none
      | some (acc, rest) =>
        match Json.skipSpace rest with
        | ',' :: rest => readMembers fuel acc rest
        | '\x7d' :: rest => some (.members acc, rest)
        | _ => none

/-- The members that a text begins with, and the rest of it. -/
def readRecord? (cs : List Char) : Option (Record × List Char) :=
  match Json.skipSpace cs with
  | '\x7b' :: rest =>
    match Json.skipSpace rest with
    | '\x7d' :: rest => some (.members [], rest)
    | rest => readMembers rest.length [] rest
  | cs => do
    let (v, rest) ← Json.value? Json.maxDepth cs
    some (← Record.read? 4 v, rest)

/-- The message that the whole of a text stands for. -/
def read? (cs : List Char) : Option Message :=
  match readRecord? cs with
  | some (r, rest) => if Json.skipSpace rest = [] then ofRecord? r else none
  | none => none

end Message

/-- What a response says. -/
inductive Reply where
  | shown (success : Bool)
  | methodNotFound
deriving DecidableEq, Repr

structure Response where
  id : MessageId
  reply : Reply
deriving DecidableEq, Repr

namespace Response

def errorObject (code : Int) (message : String) : Json :=
  .obj [("code", .int code), ("message", .str message)]

def encode (r : Response) : Json :=
  .obj
    [("jsonrpc", .str Message.version),
      match r.reply with
      | .shown success => ("result", .obj [("success", .bool success)])
      | .methodNotFound => ("error", errorObject (-32601) "Method not found"),
      ("id", r.id.encode)]

/-- The response as a line of text, without its line end. -/
def line (r : Response) : List Char := r.encode.write

end Response

end EditorSession
