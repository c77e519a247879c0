import EditorSession.Json.Basic

/-! JSON numbers.

`NumberToken.read?` takes a numeral apart and `NumberToken.value?` says what it stands for. The
digits are gathered in a 64-bit significand, so those that no longer fit only move the point or
are dropped, and the significand is scaled by one power of ten in double precision. -/

namespace EditorSession
namespace Json

/-- A numeral taken apart. -/
structure NumberToken where
  negative : Bool
  whole : List Nat
  fraction : Option (List Nat)
  /-- The sign of the exponent, true for a negative one, and its digits. -/
  exponent : Option (Bool × List Nat)
deriving DecidableEq, Repr

def digit (c : Char) : Nat := c.toNat - '0'.toNat

/-- The digits that a text begins with, and the rest of it. -/
def takeDigits (cs : List Char) : List Nat × List Char :=
  ((cs.takeWhile Char.isDigit).map digit, cs.dropWhile Char.isDigit)

/-- The value of digits, the first one the most significant. -/
def ofDigits (digits : List Nat) : Nat := digits.foldl (fun n d => 10 * n + d) 0

namespace NumberToken

/-- The digits after a point, which must be there. -/
def readFraction? : List Char → Option (Option (List Nat) × List Char)
  | '.' :: cs =>
    match takeDigits cs with
    | ([], _) => none
    | (ds, rest) => some (some ds, rest)
  | cs => some (none, cs)

/-- The sign of an exponent and what follows it. -/
def readSign : List Char → Bool × List Char
  | '-' :: cs => (true, cs)
  | '+' :: cs => (false, cs)
  | cs => (false, cs)

def readExponent? : List Char → Option (Option (Bool × List Nat) × List Char)
  | c :: cs =>
    if c = 'e' ∨ c = 'E' then
      match takeDigits (readSign cs).2 with
      | ([], _) => none
      | (ds, rest) => some (some ((readSign cs).1, ds), rest)
    else some (none, c :: cs)
  | [] => some (none, [])

/-- The digits before the point. A zero stands alone. -/
def readWhole? (cs : List Char) : Option (List Nat × List Char) :=
  match takeDigits cs with
  | ([], _) => none
  | (0 :: _ :: _, _) => none
  | (ds, rest) => some (ds, rest)

/-- The numeral that a text begins with, and the rest of it. -/
def read? (cs : List Char) : Option (NumberToken × List Char) := do
  let (negative, cs) := match cs with
    | '-' :: cs => (true, cs)
    | cs => (false, cs)
  let (whole, cs) ← readWhole? cs
  let (fraction, cs) ← readFraction? cs
  let (exponent, cs) ← readExponent? cs
  some (⟨negative, whole, fraction, exponent⟩, cs)

end NumberToken

/-- Digits gathered in a 64-bit word: the word, and the power of ten that it is still to be
multiplied by. -/
structure Significand where
  word : Nat
  scale : Int
deriving DecidableEq, Repr

namespace Significand

def limit : Nat := UInt64.size

/-- Adds the digits before the point. From the first one that does not fit, they only count. -/
def addWhole (s : Significand) : List Nat → Significand
  | [] => s
  | d :: ds =>
    if s.scale = 0 ∧ 10 * s.word + d < limit then addWhole ⟨10 * s.word + d, 0⟩ ds
    else addWhole ⟨s.word, s.scale + 1⟩ ds

/-- Adds the digits after the point, up to the first one that does not fit. -/
def addFraction (s : Significand) : List Nat → Significand
  | [] => s
  | d :: ds =>
    if 10 * s.word + d < limit then addFraction ⟨10 * s.word + d, s.scale - 1⟩ ds else s

end Significand

/-- The double-precision value of a power of ten. -/
def powerOfTen (n : Nat) : Float := Float.ofScientific 1 false n

/-- A number times a power of ten, within double precision. Powers of ten reach up to 308, so a
smaller scale is reached in steps. -/
def scaleFloat (x : Float) (scale : Int) : Nat → Option Float
  | 0 => some x
  | steps + 1 =>
    if scale.natAbs ≤ 308 then
      if 0 ≤ scale then
        let y := x * powerOfTen scale.natAbs
        if y.isInf then none else some y
      else some (x / powerOfTen scale.natAbs)
    else if x == 0 then some x
    else if 0 ≤ scale then none
    else scaleFloat (x / powerOfTen 308) (scale + 308) steps

namespace NumberToken

def significand (t : NumberToken) : Significand :=
  (Significand.addWhole ⟨0, 0⟩ t.whole).addFraction (t.fraction.getD [])

def scale (t : NumberToken) : Int :=
  match t.exponent with
  | none => t.significand.scale
  | some (negative, ds) =>
    if negative then t.significand.scale - ofDigits ds else t.significand.scale + ofDigits ds

/-- The number in double precision; `none` if it is out of range. -/
def float? (t : NumberToken) : Option Json := do
  let x ← scaleFloat (UInt64.ofNat t.significand.word).toFloat t.scale 4
  some (.float (if t.negative then -x else x).toBits)

/-- What a numeral stands for. It is an integer if it is written as one and fits 64 bits, with or
without a sign; a negative zero is no integer. -/
def value? (t : NumberToken) : Option Json :=
  let n := ofDigits t.whole
  if t.fraction = none ∧ t.exponent = none then
    if t.negative then
      if 0 < n ∧ Int64.minValue.toInt ≤ -n then some (.int (-n)) else t.float?
    else if n < UInt64.size then some (.int n)
    else t.float?
  else t.float?

end NumberToken

end Json

end EditorSession
