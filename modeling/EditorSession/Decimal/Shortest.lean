import EditorSession.Decimal.Binary

/-! The fewest decimal digits that read back.

The reals that round to a magnitude form an interval, ends included when the significand is
even. `Binary.shortest` takes the coarsest decimal grid on which one of the two neighbours of the
magnitude lies in that interval, and of two such neighbours the nearer one. -/

namespace EditorSession

/-- A decimal `digits * 10 ^ exponent`. -/
structure Decimal where
  digits : Nat
  exponent : Int
deriving DecidableEq, Repr

namespace Binary

/-- The power of two that clears the denominators of the magnitude and of the interval's ends. -/
def denominator (b : Binary) : Nat := Nat.pow 2 (2 - b.exponent).toNat

def scale (b : Binary) : Nat := Nat.pow 2 (b.exponent - 2).toNat

/-- The numerator of the magnitude over `denominator`. -/
def middle (b : Binary) : Nat := 4 * b.significand * b.scale

def low (b : Binary) : Nat := (4 * b.significand - if b.narrow then 1 else 2) * b.scale

def high (b : Binary) : Nat := (4 * b.significand + 2) * b.scale

/-- Whether a decimal rounds to the magnitude. -/
def readsBack (b : Binary) (d : Decimal) : Bool :=
  let value := d.digits * Nat.pow 10 d.exponent.toNat * b.denominator
  let up := Nat.pow 10 (-d.exponent).toNat
  if b.significand % 2 = 0 then b.low * up ≤ value && value ≤ b.high * up
  else b.low * up < value && value < b.high * up

/-- The neighbour below, or the magnitude itself, on the grid of multiples of `10 ^ k`. -/
def floorAt (b : Binary) (k : Int) : Decimal :=
  ⟨b.middle * Nat.pow 10 (-k).toNat / (b.denominator * Nat.pow 10 k.toNat), k⟩

/-- Twice the distance past the neighbour below, compared with one step of the grid. -/
def compareHalf (b : Binary) (k : Int) : Ordering :=
  let step := b.denominator * Nat.pow 10 k.toNat
  compare (2 * (b.middle * Nat.pow 10 (-k).toNat % step)) step

/-- The neighbour on the grid of multiples of `10 ^ k` that reads back, the nearer one if both
do; a tie goes to the even digits. -/
def onGrid? (b : Binary) (k : Int) : Option Decimal :=
  let below := b.floorAt k
  let above : Decimal := ⟨below.digits + 1, k⟩
  match b.readsBack below, b.readsBack above with
  | false, false => none
  | true, false => some below
  | false, true => some above
  | true, true =>
    match b.compareHalf k with
    | .lt => some below
    | .gt => some above
    | .eq => some (if below.digits % 2 = 0 then below else above)

/-- The power of ten of the leading digit. -/
def leading (b : Binary) : Int :=
  if b.denominator ≤ b.middle then
    ((Nat.toDigits 10 (b.middle / b.denominator)).length : Int) - 1
  else -((Nat.toDigits 10 (b.denominator / b.middle)).length : Int)

/-- The first grid with a hit among `tries` grids, each ten times finer than the one before. -/
def search (b : Binary) (k : Int) : Nat → Decimal
  | 0 => b.floorAt k
  | tries + 1 =>
    match b.onGrid? k with
    | some d => d
    | none => search b (k - 1) tries

end Binary

namespace Decimal

/-- The same value without zeros at the end of its digits; each zero costs one of `fuel`. -/
def strip (d : Decimal) : Nat → Decimal
  | 0 => d
  | fuel + 1 =>
    if d.digits ≠ 0 ∧ d.digits % 10 = 0 then strip ⟨d.digits / 10, d.exponent + 1⟩ fuel else d

end Decimal

/-- The shortest decimal that rounds to the magnitude: at most 17 digits are needed. -/
def Binary.shortest (b : Binary) : Decimal :=
  if b.significand = 0 then ⟨0, 0⟩ else (b.search b.leading 17).strip 20

end EditorSession
