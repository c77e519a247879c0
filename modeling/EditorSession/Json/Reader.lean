import EditorSession.Json.Number
import EditorSession.Json.Text

/-! Reading JSON.

`Json.value?` reads the value that a text begins with, nested at most `depth` levels deep, and
`Json.read?` wants nothing after it. The bound on recursion is computed from the length of the
text: no two steps in a row leave it as long as it was. -/

namespace EditorSession
namespace Json

mutual

/-- The value that a text begins with, and the rest of it. -/
def valueWithin : Nat → Nat → List Char → Option (Json × List Char)
  | 0, _, _ => none
  | fuel + 1, depth, cs =>
    match skipSpace cs with
    | 'n' :: 'u' :: 'l' :: 'l' :: rest => some (.null, rest)
    | 't' :: 'r' :: 'u' :: 'e' :: rest => some (.bool true, rest)
    | 'f' :: 'a' :: 'l' :: 's' :: 'e' :: rest => some (.bool false, rest)
    | '"' :: rest => (readString? rest).map fun (s, rest) => (.str s, rest)
    | '[' :: rest =>
      match depth, skipSpace rest with
      | 0, _ => none
      | _ + 1, ']' :: rest => some (.arr [], rest)
      | depth + 1, rest => itemsWithin fuel depth [] rest
    | '\x7b' :: rest =>
      match depth, skipSpace rest with
      | 0, _ => none
      | _ + 1, '\x7d' :: rest => some (.obj [], rest)
      | depth + 1, rest => membersWithin fuel depth [] rest
    | cs => do
      let (token, rest) ← NumberToken.read? cs
      some (← token.value?, rest)

/-- The items of an array from one of them up to its closing bracket. -/
def itemsWithin : Nat → Nat → List Json → List Char → Option (Json × List Char)
  | 0, _, _, _ => none
  | fuel + 1, depth, acc, cs =>
    match valueWithin fuel depth cs with
    | none => none
    | some (v, rest) =>
      match skipSpace rest with
      | ',' :: rest => itemsWithin fuel depth (v :: acc) rest
      | ']' :: rest => some (.arr (v :: acc).reverse, rest)
      | _ => none

/-- The members of an object from a key up to its closing brace. -/
def membersWithin : Nat → Nat → List (String × Json) → List Char → Option (Json × List Char)
  | 0, _, _, _ => none
  | fuel + 1, depth, acc, cs =>
    match key? cs with
    | none => none
    | some (k, rest) =>
      match valueWithin fuel depth rest with
      | none => none
      | some (v, rest) =>
        match skipSpace rest with
        | ',' :: rest => membersWithin fuel depth (insertMember k v acc) rest
        | '\x7d' :: rest => some (.obj (insertMember k v acc), rest)
        | _ => none

end

/-- A bound on the steps that reading a text takes. -/
def readBound (cs : List Char) : Nat := 2 * cs.length + 2

/-- The levels of nesting that a text may have. -/
def maxDepth : Nat := 127

def value? (depth : Nat) (cs : List Char) : Option (Json × List Char) :=
  valueWithin (readBound cs) depth cs

/-- The value that the whole of a text stands for. -/
def read? (depth : Nat) (text : String) : Option Json :=
  match value? depth text.toList with
  | some (v, rest) => if skipSpace rest = [] then some v else none
  | none => none

end Json

end EditorSession
