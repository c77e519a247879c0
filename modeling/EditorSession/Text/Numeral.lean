/-! Numerals: digits `0` to `9` and letters of either case, in a radix of at most 36. -/

namespace EditorSession
namespace Numeral

/-- The value of a digit; 36 for any other character. -/
def digitValue (c : Char) : Nat :=
  if c.isDigit then c.toNat - 48
  else if c.isLower then c.toNat - 87
  else if c.isUpper then c.toNat - 55
  else 36

def digit? (radix : Nat) (c : Char) : Option Nat :=
  if digitValue c < radix then some (digitValue c) else none

/-- The number that a text of digits stands for; the empty text stands for zero. -/
def value? (radix : Nat) (cs : List Char) : Option Nat :=
  cs.foldlM (fun n c => (digit? radix c).map (n * radix + ·)) 0

end Numeral

end EditorSession
