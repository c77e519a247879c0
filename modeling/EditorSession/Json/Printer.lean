import EditorSession.Decimal.Layout
import EditorSession.Json.Text

/-! Writing JSON without blanks, the members in the order in which they are kept. -/

namespace EditorSession
namespace Json

/-- Numbers are positional from `0.00001` to below `1e+16`, and an integral one ends in `.0`. -/
def numberLayout : NumberLayout where
  positional := some (-5, 16)
  pointZero := true
  plus := true
  infinite := "null"
  nan := "null"

def writeFloat (bits : UInt64) : List Char :=
  numberLayout.write (FloatFormat.double.read bits.toNat)

def writeInt (i : Int) : List Char :=
  if i < 0 then '-' :: Nat.toDigits 10 i.natAbs else Nat.toDigits 10 i.natAbs

mutual

def write : Json → List Char
  | .null => ['n', 'u', 'l', 'l']
  | .bool true => ['t', 'r', 'u', 'e']
  | .bool false => ['f', 'a', 'l', 's', 'e']
  | .int i => writeInt i
  | .float bits => writeFloat bits
  | .str s => escape s
  | .arr items => '[' :: writeItems items ++ [']']
  | .obj members => '\x7b' :: writeMembers members ++ ['\x7d']

def writeItems : List Json → List Char
  | [] => []
  | [v] => write v
  | v :: vs => write v ++ ',' :: writeItems vs

def writeMembers : List (String × Json) → List Char
  | [] => []
  | [(k, v)] => escape k ++ ':' :: write v
  | (k, v) :: ms => escape k ++ ':' :: write v ++ ',' :: writeMembers ms

end

def compact (v : Json) : String := String.ofList v.write

end Json

end EditorSession
