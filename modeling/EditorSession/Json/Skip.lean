import EditorSession.Json.Number
import EditorSession.Json.Text

/-! Passing over a JSON value.

`Json.skip?` looks only at the form of a value: it may be nested to any depth, a numeral may be out
of range and an escaped surrogate may stand alone. -/

namespace EditorSession
namespace Json

/-- An array or object that is still open. -/
inductive Frame where
  | array
  | object
deriving DecidableEq, Repr

/-- What the text goes on with: a value, or what follows one. -/
inductive Expected where
  | value
  | next
deriving DecidableEq, Repr

def skipKey? (cs : List Char) : Option (List Char) :=
  match skipSpace cs with
  | '"' :: rest =>
    match skipString? rest with
    | none => none
    | some rest =>
      match skipSpace rest with
      | ':' :: rest => some rest
      | _ => none
  | _ => none

/-- The text after a value that is no array and no object. -/
def skipScalar? : List Char → Option (List Char)
  | 'n' :: 'u' :: 'l' :: 'l' :: rest => some rest
  | 't' :: 'r' :: 'u' :: 'e' :: rest => some rest
  | 'f' :: 'a' :: 'l' :: 's' :: 'e' :: rest => some rest
  | '"' :: rest => skipString? rest
  | cs => (NumberToken.read? cs).map (·.2)

/-- The text after the value that the open `frames` belong to. -/
def skipWithin : Nat → Expected → List Frame → List Char → Option (List Char)
  | 0, _, _, _ => none
  | fuel + 1, .value, frames, cs =>
    match skipSpace cs with
    | '[' :: rest =>
      match skipSpace rest with
      | ']' :: rest => skipWithin fuel .next frames rest
      | rest => skipWithin fuel .value (.array :: frames) rest
    | '\x7b' :: rest =>
      match skipSpace rest with
      | '\x7d' :: rest => skipWithin fuel .next frames rest
      | rest =>
        match skipKey? rest with
        | none => none
        | some rest => skipWithin fuel .value (.object :: frames) rest
    | cs =>
      match skipScalar? cs with
      | none => none
      | some rest => skipWithin fuel .next frames rest
  | _ + 1, .next, [], cs => some cs
  | fuel + 1, .next, frame :: frames, cs =>
    match frame, skipSpace cs with
    | .array, ',' :: rest => skipWithin fuel .value (.array :: frames) rest
    | .array, ']' :: rest => skipWithin fuel .next frames rest
    | .object, ',' :: rest =>
      match skipKey? rest with
      | none => none
      | some rest => skipWithin fuel .value (.object :: frames) rest
    | .object, '\x7d' :: rest => skipWithin fuel .next frames rest
    | _, _ => none

/-- The text after the value that it begins with. Every step but the last uses up a character. -/
def skip? (cs : List Char) : Option (List Char) := skipWithin (2 * cs.length + 2) .value [] cs

end Json

end EditorSession
