/-! Columns in UTF-16 units, and places in bytes.

`unitLength` measures a text in units and `byteLength` in bytes. `byteOffset?` finds the byte offset
at which a column begins. Its counter is a 32-bit word, and as long as that does not overflow, a
column inside a surrogate pair or past the end of the text has no offset. `byteOffsetsOf` are the
offsets of one character. `splitAtByte?` and `slice?` cut between characters only, which
`splitAtByte?_eq_some_iff` says of every cut. -/

namespace EditorSession

/-- The number of UTF-16 units of a character: two outside the basic plane, else one. -/
def unitWidth (c : Char) : Nat := if c.val ≤ 0xFFFF then 1 else 2

def unitLength : List Char → Nat
  | [] => 0
  | c :: cs => unitWidth c + unitLength cs

/-- The number of UTF-8 bytes of a text. -/
def byteLength : List Char → Nat
  | [] => 0
  | c :: cs => c.utf8Size + byteLength cs

theorem unitLength_append (cs ds : List Char) :
    unitLength (cs ++ ds) = unitLength cs + unitLength ds := by
  induction cs with
  | nil => simp [unitLength]
  | cons c cs ih => simp [unitLength, ih, Nat.add_assoc]

theorem byteLength_append (cs ds : List Char) :
    byteLength (cs ++ ds) = byteLength cs + byteLength ds := by
  induction cs with
  | nil => simp [byteLength]
  | cons c cs ih => simp [byteLength, ih, Nat.add_assoc]

namespace Units

/-- Looks for `column` from a place `units` units and `offset` bytes into the text. -/
def seek (column : UInt32) : List Char → UInt32 → Nat → Option Nat
  | [], units, offset => if units = column then some offset else none
  | c :: cs, units, offset =>
    if units = column then some offset
    else if column < units then none
    else seek column cs (units + UInt32.ofNat (unitWidth c)) (offset + c.utf8Size)

end Units

/-- The byte offset of the character that begins at `column`, or of the end of the text. -/
def byteOffset? (text : List Char) (column : UInt32) : Option Nat := Units.seek column text 0 0

/-- The byte offsets at which `x` stands in a text that begins at byte `offset`. -/
def byteOffsetsOf (x : Char) : List Char → Nat → List Nat
  | [], _ => []
  | c :: cs, offset =>
    if c = x then offset :: byteOffsetsOf x cs (offset + c.utf8Size)
    else byteOffsetsOf x cs (offset + c.utf8Size)

/-- Cuts a text after `n` bytes, if that is between two characters. -/
def splitAtByte? : List Char → Nat → Option (List Char × List Char)
  | cs, 0 => some ([], cs)
  | [], _ + 1 => none
  | c :: cs, n + 1 =>
    if n + 1 < c.utf8Size then none
    else (splitAtByte? cs (n + 1 - c.utf8Size)).map fun (a, b) => (c :: a, b)

theorem splitAtByte?_eq_some_iff {cs a b : List Char} {n : Nat} :
    splitAtByte? cs n = some (a, b) ↔ cs = a ++ b ∧ byteLength a = n := by
  induction cs generalizing a n with
  | nil =>
    cases n with
    | zero => cases a <;> simp [splitAtByte?, byteLength, eq_comm]
    | succ n => cases a <;> simp [splitAtByte?, byteLength]
  | cons c cs ih =>
    have hc := c.utf8Size_pos
    match n, a with
    | 0, [] => simp [splitAtByte?, byteLength, eq_comm]
    | 0, d :: ds =>
      have hd := d.utf8Size_pos
      simp only [splitAtByte?, byteLength, Option.some.injEq, Prod.mk.injEq]
      exact ⟨fun h => (List.cons_ne_nil _ _ h.1.symm).elim, fun h => by omega⟩
    | n + 1, [] =>
      rw [splitAtByte?]
      split <;> simp [byteLength]
    | n + 1, d :: ds =>
      rw [splitAtByte?]
      split
      · refine ⟨nofun, fun ⟨he, hn⟩ => ?_⟩
        cases he
        rw [byteLength] at hn
        omega
      · refine ⟨fun h => ?_, fun ⟨he, hn⟩ => ?_⟩
        · obtain ⟨_, hs, he⟩ := Option.map_eq_some_iff.1 h
          cases he
          obtain ⟨rfl, hn⟩ := ih.1 hs
          exact ⟨rfl, by rw [byteLength, hn]; omega⟩
        · cases he
          rw [byteLength] at hn
          rw [ih.2 ⟨rfl, by omega⟩]
          rfl

/-- The part of a text from byte `start` up to byte `stop`. It is `none` if `stop` precedes
`start`, or one of them is past the end or inside a character. -/
def slice? (text : List Char) (start stop : Nat) : Option (List Char) :=
  if stop < start then none
  else do
    let (_, rest) ← splitAtByte? text start
    let (part, _) ← splitAtByte? rest (stop - start)
    some part

end EditorSession
