/-! JSON values.

Integers that fit 64 bits are kept apart from all other numbers, which are double-precision words.
The members of an object are kept in the order of their keys, and `Json.insertMember` lets a later
member replace an earlier one of the same key. -/

namespace EditorSession

inductive Json where
  | null
  | bool (b : Bool)
  | int (i : Int)
  /-- A number by its double-precision word. -/
  | float (bits : UInt64)
  | str (s : String)
  | arr (items : List Json)
  | obj (members : List (String × Json))
deriving Repr, Inhabited

namespace Json

/-- Members with `key` set to `value`, at its place in the order of keys. -/
def insertMember (key : String) (value : Json) : List (String × Json) → List (String × Json)
  | [] => [(key, value)]
  | (k, v) :: rest =>
    if key < k then (key, value) :: (k, v) :: rest
    else if key = k then (key, value) :: rest
    else (k, v) :: insertMember key value rest

/-- The value of a member. -/
def member? (key : String) (members : List (String × Json)) : Option Json :=
  (members.find? fun m => m.1 == key).map (·.2)

end Json

end EditorSession
