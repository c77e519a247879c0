/-! Binary floating-point words taken apart.

A finite word stands for `significand * 2 ^ exponent` and a sign. `Binary` also says how far the
neighbour below is, which decides the reals that round to the word. -/

namespace EditorSession

/-- A magnitude `significand * 2 ^ exponent`. It is `narrow` if the gap to the neighbour below is
half the gap to the neighbour above. -/
structure Binary where
  significand : Nat
  exponent : Int
  narrow : Bool
deriving DecidableEq, Repr

/-- The value of a floating-point word. -/
inductive FloatValue where
  | nan
  | infinite (negative : Bool)
  | finite (negative : Bool) (magnitude : Binary)
deriving DecidableEq, Repr

/-- The widths of the exponent and of the fraction of a format. -/
structure FloatFormat where
  exponentBits : Nat
  fractionBits : Nat
deriving DecidableEq, Repr

namespace FloatFormat

def double : FloatFormat := ⟨11, 52⟩

def single : FloatFormat := ⟨8, 23⟩

/-- The number of fractions, which is the significand of a full magnitude without a fraction. -/
def fractions (f : FloatFormat) : Nat := Nat.pow 2 f.fractionBits

/-- The number of exponents; the last one is that of infinities and of what is no number. -/
def exponents (f : FloatFormat) : Nat := Nat.pow 2 f.exponentBits

/-- The exponent of the smallest magnitudes. -/
def leastExponent (f : FloatFormat) : Int := 2 - (f.exponents / 2 : Nat) - f.fractionBits

/-- What a word stands for: from its low end the fraction, the biased exponent and the sign. -/
def read (f : FloatFormat) (word : Nat) : FloatValue :=
  let fraction := word % f.fractions
  let biased := word / f.fractions % f.exponents
  let negative := word / f.fractions / f.exponents % 2 == 1
  if biased + 1 = f.exponents then
    if fraction = 0 then .infinite negative else .nan
  else if biased = 0 then .finite negative ⟨fraction, f.leastExponent, false⟩
  else .finite negative
    ⟨f.fractions + fraction, f.leastExponent + (biased - 1), fraction = 0 ∧ 1 < biased⟩

end FloatFormat

end EditorSession
