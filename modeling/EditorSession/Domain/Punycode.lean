/-! Punycode, the ASCII form of a label with other characters in it.

The ASCII characters come first. After a hyphen each other character follows, in the order of code
points, as the number of states that an insertion machine passes before it inserts the character; a
number is written in base 36 with thresholds that adapt to the numbers before it. -/

namespace EditorSession
namespace Domain
namespace Punycode

def digitChar (d : Nat) : Char := if d < 26 then Char.ofNat (97 + d) else Char.ofNat (22 + d)

def digitValue? (c : Char) : Option Nat :=
  if c.isLower then some (c.toNat - 97)
  else if c.isUpper then some (c.toNat - 65)
  else if c.isDigit then some (c.toNat - 48 + 26)
  else none

/-- The threshold of the digit at place `k`, a multiple of 36. -/
def threshold (k bias : Nat) : Nat := max 1 (min 26 (k - bias))

/-- Divides by 35 until at most 455 is left, counting 36 for each division. -/
def damp (delta k : Nat) : Nat × Nat :=
  if 455 < delta then damp (delta / 35) (k + 36) else (delta, k)
termination_by delta
decreasing_by exact Nat.div_lt_self (by omega) (by omega)

/-- The bias after the number `delta`, when `count` characters are in place. -/
def adapt (delta count : Nat) (isFirst : Bool) : Nat :=
  let delta := if isFirst then delta / 700 else delta / 2
  let (delta, k) := damp (delta + delta / count) 0
  k + 36 * delta / (delta + 38)

/-- The digits of a number, at most `fuel` of them, the least significant first. -/
def writeNumber (bias k q : Nat) : Nat → List Char
  | 0 => []
  | fuel + 1 =>
    let t := threshold k bias
    if q < t then [digitChar q]
    else digitChar (t + (q - t) % (36 - t)) :: writeNumber bias (k + 36) ((q - t) / (36 - t)) fuel

/-- The encoder: what it has written, the states passed since, the bias, and the number of
characters in place. -/
structure Encoder where
  out : List Char
  delta : Nat
  bias : Nat
  placed : Nat

namespace Encoder

/-- Passes one character of the label while the characters with code point `n` are placed. -/
def pass (basic n : Nat) (e : Encoder) (c : Char) : Encoder :=
  if c.toNat < n then { e with delta := e.delta + 1 }
  else if c.toNat = n then
    { out := e.out ++ writeNumber e.bias 36 e.delta 32, delta := 0,
      bias := adapt e.delta (e.placed + 1) (e.placed == basic), placed := e.placed + 1 }
  else e

/-- Places the characters with the given code points, in increasing order; `n` is the least code
point that is still to be placed. -/
def placeAll (label : List Char) (basic : Nat) : Nat → List Nat → Encoder → Encoder
  | _, [], e => e
  | n, m :: rest, e =>
    let e := { e with delta := e.delta + (m - n) * (e.placed + 1) }
    let e := label.foldl (pass basic m) e
    placeAll label basic (m + 1) rest { e with delta := e.delta + 1 }

end Encoder

/-- The code points of a label outside ASCII, each once, in order. -/
def codePoints (label : List Char) : List Nat :=
  (((label.map Char.toNat).filter (128 ≤ ·)).mergeSort).eraseDups

def encode (label : List Char) : List Char :=
  let basic := label.filter (·.toNat < 128)
  let start : Encoder := ⟨[], 0, 72, basic.length⟩
  (if basic = [] then [] else basic ++ ['-'])
    ++ (Encoder.placeAll label basic.length 128 (codePoints label) start).out

/-- Adds the number that a text begins with to `i`. The sum and the weights of the digits have to
fit a word. -/
def readNumber (bias : Nat) : Nat → Nat → Nat → List Char → Option (Nat × List Char)
  | _, _, _, [] => none
  | k, weight, i, c :: rest =>
    match digitValue? c with
    | none => none
    | some d =>
      if UInt32.size ≤ weight ∨ UInt32.size ≤ i + d * weight then none
      else if d < threshold k bias then some (i + d * weight, rest)
      else readNumber bias (k + 36) (weight * (36 - threshold k bias)) (i + d * weight) rest

/-- Inserts one character for each number of a text; each uses up a character, and one of
`fuel`. -/
def insertAll (n i bias : Nat) (out : List Char) : Nat → List Char → Option (List Char)
  | _, [] => some out
  | 0, _ => none
  | fuel + 1, cs =>
    match readNumber bias 36 1 i cs with
    | none => none
    | some (j, rest) =>
      let count := out.length + 1
      let n := n + j / count
      let place := j % count
      if n.isValidChar then
        insertAll n (place + 1) (adapt (j - i) count (i == 0))
          (out.take place ++ Char.ofNat n :: out.drop place) fuel rest
      else none

/-- The text before the last hyphen and the text after it. A hyphen at the front divides nothing. -/
def splitLastHyphen (cs : List Char) : List Char × List Char :=
  let tail := (cs.reverse.takeWhile (· ≠ '-')).reverse
  let basic := cs.take (cs.length - tail.length - 1)
  if basic = [] then ([], cs) else (basic, tail)

/-- The label that an ASCII text encodes. -/
def decode? (cs : List Char) : Option (List Char) :=
  let (basic, tail) := splitLastHyphen cs
  if cs.all (·.toNat < 128) then insertAll 128 0 72 basic tail.length tail else none

end Punycode

end Domain

end EditorSession
