import EditorSession.Json.Basic

/-! The lexical part of JSON: blanks and strings.

`readString?` reads what stands in quotes and `skipString?` passes over it with less care: it does
not ask whether the escaped surrogates come in pairs. `escape` writes a string. -/

namespace EditorSession
namespace Json

def isSpace (c : Char) : Bool := c == ' ' || c == '\t' || c == '\n' || c == '\r'

def skipSpace (cs : List Char) : List Char := cs.dropWhile isSpace

def hexValue? (c : Char) : Option Nat :=
  if '0' ≤ c ∧ c ≤ '9' then some (c.toNat - '0'.toNat)
  else if 'a' ≤ c ∧ c ≤ 'f' then some (c.toNat - 'a'.toNat + 10)
  else if 'A' ≤ c ∧ c ≤ 'F' then some (c.toNat - 'A'.toNat + 10)
  else none

/-- The value of four hexadecimal digits. -/
def hexUnit? (a b c d : Char) : Option Nat := do
  some ((((← hexValue? a) * 16 + (← hexValue? b)) * 16 + (← hexValue? c)) * 16 + (← hexValue? d))

/-- The character of a one-letter escape. -/
def simpleEscape? : Char → Option Char
  | '"' => some '"'
  | '\\' => some '\\'
  | '/' => some '/'
  | 'b' => some '\x08'
  | 'f' => some '\x0c'
  | 'n' => some '\n'
  | 'r' => some '\r'
  | 't' => some '\t'
  | _ => none

/-- What an escaped unit means after `high`, the leading surrogate before it: a character, or a
leading surrogate that waits for the next unit. -/
inductive UnitMeaning where
  | char (c : Char)
  | leading (unit : Nat)
deriving DecidableEq, Repr

def unitMeaning? (high : Option Nat) (unit : Nat) : Option UnitMeaning :=
  let isLow := 0xDC00 ≤ unit && unit ≤ 0xDFFF
  match high with
  | some h =>
    if isLow then some (.char (Char.ofNat (0x10000 + (h - 0xD800) * 0x400 + (unit - 0xDC00))))
    else none
  | none =>
    if isLow then none
    else if 0xD800 ≤ unit && unit ≤ 0xDBFF then some (.leading unit)
    else some (.char (Char.ofNat unit))

/-- Reads a string up to its closing quote. `acc` holds its characters so far, the last one first,
and `high` a leading surrogate that an escape has just given. -/
def readStringAfter (acc : List Char) (high : Option Nat) : List Char → Option (List Char × List Char)
  | '\\' :: 'u' :: a :: b :: c :: d :: rest =>
    match (hexUnit? a b c d).bind (unitMeaning? high) with
    | some (.char ch) => readStringAfter (ch :: acc) none rest
    | some (.leading unit) => readStringAfter acc (some unit) rest
    | none => none
  | '\\' :: e :: rest =>
    match high, simpleEscape? e with
    | none, some ch => readStringAfter (ch :: acc) none rest
    | _, _ => none
  | '"' :: rest => if high.isNone then some (acc.reverse, rest) else none
  | c :: rest =>
    if high.isNone && 0x20 ≤ c.toNat && c != '\\' then readStringAfter (c :: acc) none rest else none
  | [] => none

/-- The string whose opening quote stands before the text, and the rest of the text. -/
def readString? (cs : List Char) : Option (String × List Char) :=
  (readStringAfter [] none cs).map fun (s, rest) => (String.ofList s, rest)

/-- The key that a member begins with, and the text after its colon. -/
def key? (cs : List Char) : Option (String × List Char) :=
  match skipSpace cs with
  | '"' :: rest =>
    match readString? rest with
    | none => none
    | some (k, rest) =>
      match skipSpace rest with
      | ':' :: rest => some (k, rest)
      | _ => none
  | _ => none

/-- The text after the closing quote of a string. -/
def skipString? : List Char → Option (List Char)
  | '\\' :: 'u' :: a :: b :: c :: d :: rest =>
    if (hexUnit? a b c d).isSome then skipString? rest else none
  | '\\' :: e :: rest => if (simpleEscape? e).isSome then skipString? rest else none
  | '"' :: rest => some rest
  | c :: rest => if 0x20 ≤ c.toNat && c != '\\' then skipString? rest else none
  | [] => none

/-- A character inside quotes. -/
def escapeChar (c : Char) : List Char :=
  if c = '"' then ['\\', '"']
  else if c = '\\' then ['\\', '\\']
  else if c = '\x08' then ['\\', 'b']
  else if c = '\x0c' then ['\\', 'f']
  else if c = '\n' then ['\\', 'n']
  else if c = '\r' then ['\\', 'r']
  else if c = '\t' then ['\\', 't']
  else if c.toNat < 0x20 then
    ['\\', 'u', '0', '0', Nat.digitChar (c.toNat / 16), Nat.digitChar (c.toNat % 16)]
  else [c]

/-- A string in quotes. -/
def escape (s : String) : List Char := '"' :: s.toList.flatMap escapeChar ++ ['"']

end Json

end EditorSession
