import EditorSession.Decimal.Shortest

/-! How a decimal is set out as text.

`NumberLayout` holds the choices of an output format; `NumberLayout.write` follows them. -/

namespace EditorSession

/-- The choices of a format for floating-point numbers. -/
structure NumberLayout where
  /-- The places of the point, counted from the first digit, at which numbers are written
  positionally: above the first bound and up to the second. Elsewhere an exponent is used;
  `none` stands for positional notation everywhere. -/
  positional : Option (Int × Int)
  /-- Whether an integral value ends in `.0`. -/
  pointZero : Bool
  /-- Whether an exponent that is not negative has a `+`. -/
  plus : Bool
  infinite : String
  nan : String

namespace NumberLayout

def isPositional (l : NumberLayout) (point : Int) : Bool :=
  match l.positional with
  | none => true
  | some (above, upTo) => above < point && point ≤ upTo

/-- Digits with the point after the first `point` of them, zeros filled in. -/
def writePositional (l : NumberLayout) (digits : List Char) (point : Int) : List Char :=
  if point ≤ 0 then ['0', '.'] ++ List.replicate (-point).toNat '0' ++ digits
  else if digits.length ≤ point.toNat then
    digits ++ List.replicate (point.toNat - digits.length) '0'
      ++ (if l.pointZero then ['.', '0'] else [])
  else digits.take point.toNat ++ ['.'] ++ digits.drop point.toNat

def writeExponent (l : NumberLayout) (digits : List Char) (point : Int) : List Char :=
  let e := point - 1
  let fraction := if digits.length ≤ 1 then [] else '.' :: digits.drop 1
  let sign := if e < 0 then ['-'] else if l.plus then ['+'] else []
  digits.take 1 ++ fraction ++ ['e'] ++ sign ++ Nat.toDigits 10 e.natAbs

def writeDecimal (l : NumberLayout) (d : Decimal) : List Char :=
  let digits := Nat.toDigits 10 d.digits
  if d.digits = 0 then l.writePositional digits 1
  else
    let point := d.exponent + digits.length
    if l.isPositional point then l.writePositional digits point
    else l.writeExponent digits point

def write (l : NumberLayout) : FloatValue → List Char
  | .nan => l.nan.toList
  | .infinite negative => (if negative then ['-'] else []) ++ l.infinite.toList
  | .finite negative b => (if negative then ['-'] else []) ++ l.writeDecimal b.shortest

end NumberLayout

end EditorSession
