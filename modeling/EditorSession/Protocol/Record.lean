import EditorSession.Json.Basic
import EditorSession.Url.Reader

/-! Reading and writing records of the protocol.

A record is an object, or an array of its fields in their order. An object may have more members; an
array may not be longer than the record. `Slot` tells apart the ways in which a field can be absent,
for they count differently: an optional field may be missing from an object, but the array may end
before a field only if the record says so (`allowed`). -/

namespace EditorSession

/-- A field of a record as it was found. -/
inductive Slot where
  /-- The object has no such member. -/
  | missing
  /-- The array ends before the field. -/
  | cutOff
  | given (value : Json)

namespace Slot

variable {α : Type}

/-- A field that has to be there. -/
def required (decode : Json → Option α) : Slot → Option α
  | given v => decode v
  | _ => none

/-- A field that may be missing or null. -/
def optional (decode : Json → Option α) : Slot → Option (Option α)
  | missing => some none
  | cutOff => none
  | given .null => some none
  | given v => (decode v).map some

/-- A field that may be missing, null, or beyond the end of the array. -/
def allowed (decode : Json → Option α) : Slot → Option (Option α)
  | cutOff => some none
  | slot => slot.optional decode

/-- A field that may be missing or beyond the end of the array, but whose null is a value. -/
def present (decode : Json → Option α) : Slot → Option (Option α)
  | given v => (decode v).map some
  | _ => some none

/-- A field that has a default value, but no null form. -/
def withDefault (default : α) (decode : Json → Option α) : Slot → Option α
  | given v => decode v
  | _ => some default

end Slot

/-- The fields of a record as they were found. -/
inductive Record where
  | members (list : List (String × Json))
  | items (list : List Json)

namespace Record

/-- A record with `size` fields. -/
def read? (size : Nat) : Json → Option Record
  | .obj list => some (members list)
  | .arr list => if list.length ≤ size then some (items list) else none
  | _ => none

/-- The field at place `index` of an array, or under `key` of an object. -/
def slot (r : Record) (index : Nat) (key : String) : Slot :=
  match r with
  | members list => (Json.member? key list).elim .missing .given
  | items list => list[index]?.elim .cutOff .given

end Record

namespace Json

/-! ### Values of fields -/

def string? : Json → Option String
  | .str s => some s
  | _ => none

def bool? : Json → Option Bool
  | .bool b => some b
  | _ => none

/-- An integer without a sign that fits 32 bits. -/
def word? : Json → Option UInt32
  | .int i => if 0 ≤ i ∧ i < UInt32.size then some (UInt32.ofNat i.toNat) else none
  | _ => none

/-- An integer that fits 32 bits with a sign. -/
def int32? : Json → Option Int
  | .int i => if Int32.minValue.toInt ≤ i ∧ i ≤ Int32.maxValue.toInt then some i else none
  | _ => none

def list? {α : Type} (decode : Json → Option α) : Json → Option (List α)
  | .arr items => items.mapM decode
  | _ => none

def url? : Json → Option Url
  | .str s => Url.parse? s
  | _ => none

def ofWord (w : UInt32) : Json := .int w.toNat

def ofUrl (u : Url) : Json := .str u.toString

def ofList {α : Type} (encode : α → Json) (xs : List α) : Json := .arr (xs.map encode)

/-- The value of a field that is null when absent. -/
def orNull {α : Type} (encode : α → Json) : Option α → Json
  | some v => encode v
  | none => .null

/-- The members of an object less the absent ones. -/
def ofPresent (members : List (String × Option Json)) : Json :=
  .obj (members.filterMap fun (key, value) => value.map (key, ·))

end Json

end EditorSession
