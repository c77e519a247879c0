import EditorSession.Domain.Joiner
import EditorSession.Domain.Mapping
import EditorSession.Domain.Punycode
import EditorSession.Text.Canonical
import EditorSession.Text.Mark

/-! Labels, the parts of a domain between its dots.

A label that is not ASCII is written as `xn--` and its Punycode. A label that is written so already
is read back and has to be what mapping and canonical form would have left of it. -/

namespace EditorSession
namespace Domain

/-- A label: its characters, and the ASCII text that it is written as. -/
structure Label where
  chars : List Char
  ascii : List Char
deriving DecidableEq, Repr

namespace Label

def isAscii (cs : List Char) : Bool := cs.all (·.toNat < 0x80)

/-- What an encoded label begins with. -/
def encodedMark : List Char := ['x', 'n', '-', '-']

/-- The most characters that a label which is to be encoded may have. -/
def maxDecoded : Nat := 1000

/-- The most characters that may follow the mark of an encoded label. -/
def maxEncoded : Nat := 2000

/-- Whether the characters of a label may stand together: no mark comes first, and each joiner
stands where it may. -/
def isCoherent (cs : List Char) : Bool :=
  !(cs.head?.any isMark) && Joiner.allStand [] cs

/-- The label that an encoded text stands for after its mark. -/
def ofEncoded? (forbidden : Char → Bool) (cs : List Char) : Option Label := do
  if cs = [] ∨ cs.getLast? = some '-' ∨ maxEncoded < cs.length then none
  let chars ← Punycode.decode? cs
  if !isAscii chars && chars.all (fun c => Mapping.keeps c && c != '.' && !forbidden c)
      && canonical chars = chars && isCoherent chars
  then some { chars, ascii := encodedMark ++ cs } else none

/-- The label of a text that is mapped and in canonical form. -/
def ofMapped? (forbidden : Char → Bool) (cs : List Char) : Option Label :=
  if encodedMark.isPrefixOf cs then ofEncoded? forbidden (cs.drop encodedMark.length)
  else if isAscii cs then some { chars := cs, ascii := cs }
  else if cs.length ≤ maxDecoded && isCoherent cs then
    some { chars := cs, ascii := encodedMark ++ Punycode.encode cs }
  else none

end Label

end Domain

end EditorSession
