import EditorSession.Text.Quoted

/-! Percent-encoding.

`Percent.encode` writes the UTF-8 bytes of every character that is not ASCII, or is in a set, as `%`
and two hexadecimal digits. `Percent.decode` reads such triples back into bytes and keeps all else,
a `%` without two digits included. The sets are those of the parts of a URL. -/

namespace EditorSession
namespace Percent

/-- Control characters, which every part of a URL encodes. -/
def isControl (c : Char) : Bool := c.toNat < 0x20 || c.toNat == 0x7F

def inFragment (c : Char) : Bool := isControl c || c ∈ [' ', '"', '<', '>', '\x60']

def inPath (c : Char) : Bool := inFragment c || c ∈ ['#', '?', '\x7b', '\x7d']

def inUserinfo (c : Char) : Bool :=
  inPath c || c ∈ ['/', ':', ';', '=', '@', '[', '\\', ']', '^', '|']

def inQuery (c : Char) : Bool := isControl c || c ∈ [' ', '"', '#', '<', '>']

def inSpecialQuery (c : Char) : Bool := inQuery c || c == '\x27'

def encodeByte (b : UInt8) : List Char := '%' :: Quoted.upperHexByte b

def encodeChar (inSet : Char → Bool) (c : Char) : List Char :=
  if c.toNat < 0x80 && !inSet c then [c]
  else (String.utf8EncodeChar c).flatMap encodeByte

def encode (inSet : Char → Bool) (cs : List Char) : List Char := cs.flatMap (encodeChar inSet)

/-- The value of a hexadecimal digit. -/
def hexValue? (b : UInt8) : Option UInt8 :=
  if 0x30 ≤ b ∧ b ≤ 0x39 then some (b - 0x30)
  else if 0x41 ≤ b ∧ b ≤ 0x46 then some (b - 0x41 + 10)
  else if 0x61 ≤ b ∧ b ≤ 0x66 then some (b - 0x61 + 10)
  else none

def decode : List UInt8 → List UInt8
  | [] => []
  | b :: x :: y :: rest =>
    if b = 0x25 then
      match hexValue? x, hexValue? y with
      | some h, some l => (h * 16 + l) :: decode rest
      | _, _ => b :: decode (x :: y :: rest)
    else b :: decode (x :: y :: rest)
  | b :: rest => b :: decode rest

end Percent

end EditorSession
