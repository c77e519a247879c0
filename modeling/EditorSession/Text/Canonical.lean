import EditorSession.Text.CombiningClass
import EditorSession.Text.Composite

/-! The canonical form of a text.

Composites are taken apart, marks are put in the order of their classes, and each base character is
joined again with the marks that form composites with it. Texts that differ in none of these ways
but the order of marks and the use of composites have the same canonical form. -/

namespace EditorSession
namespace Canonical

/-- A character with its combining class. -/
abbrev Classed := Char × Nat

/-- Adds a character to a reversed text, past the marks of higher classes if it is a mark. -/
def insert (c : Classed) : List Classed → List Classed
  | [] => [c]
  | d :: rest => if 0 < c.2 ∧ c.2 < d.2 then d :: insert c rest else c :: d :: rest

/-- The parts of a text with their classes, marks in the order of their classes. -/
def ordered (cs : List Char) : List Classed :=
  ((cs.flatMap Composite.parts).foldl (fun done c => insert (c, combiningClass c) done) []).reverse

/-- The composite of a base character and a mark after the marks `passed`, the last one first. A
mark of the same or of a higher class among them stands in the way. -/
def join? (base : Char) (passed : List Classed) (c : Classed) : Option Char :=
  match passed with
  | [] => Composite.join? base c.1
  | d :: _ => if d.2 < c.2 then Composite.join? base c.1 else none

/-- Joins a base character with marks of the text after it; `passed` are those that it has not been
joined with, the last one first. -/
def composeAfter (base : Char) (passed : List Classed) : List Classed → List Char
  | [] => base :: passed.reverse.map (·.1)
  | c :: rest =>
    match join? base passed c with
    | some composite => composeAfter composite passed rest
    | none =>
      if c.2 = 0 then base :: passed.reverse.map (·.1) ++ composeAfter c.1 [] rest
      else composeAfter base (c :: passed) rest

/-- Joins base characters with their marks. Marks at the front have no base. -/
def compose : List Classed → List Char
  | [] => []
  | c :: rest => if c.2 = 0 then composeAfter c.1 [] rest else c.1 :: compose rest

end Canonical

/-- The canonical form of a text; ASCII is in canonical form. -/
def canonical (cs : List Char) : List Char :=
  if cs.all (·.toNat < 0x80) then cs else Canonical.compose (Canonical.ordered cs)

theorem canonical_of_ascii {cs : List Char} (h : ∀ c ∈ cs, c.toNat < 0x80) : canonical cs = cs := by
  simp only [canonical, List.all_eq_true, decide_eq_true_eq]
  exact if_pos h

end EditorSession
