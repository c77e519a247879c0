import EditorSession.Json.Printer

/-! Printed JSON has no control characters.

Strings are escaped and everything else is written in letters, digits and signs, so a printed value
stands on one line (`Json.plain_write`), whatever its strings hold. -/

namespace EditorSession

/-- The text has no control characters. -/
def Plain (cs : List Char) : Prop := ∀ c ∈ cs, 0x20 ≤ c.toNat

instance (cs : List Char) : Decidable (Plain cs) :=
  List.decidableBAll (fun c : Char => 0x20 ≤ c.toNat) cs

namespace Plain

variable {c : Char} {cs ds : List Char}

theorem nil : Plain [] := nofun

theorem cons (hc : 0x20 ≤ c.toNat) (h : Plain cs) : Plain (c :: cs) :=
  List.forall_mem_cons.mpr ⟨hc, h⟩

theorem append (hc : Plain cs) (hd : Plain ds) : Plain (cs ++ ds) :=
  List.forall_mem_append.mpr ⟨hc, hd⟩

theorem take (h : Plain cs) (n : Nat) : Plain (cs.take n) :=
  fun c hc => h c (List.mem_of_mem_take hc)

theorem drop (h : Plain cs) (n : Nat) : Plain (cs.drop n) :=
  fun c hc => h c (List.mem_of_mem_drop hc)

theorem replicate (hc : 0x20 ≤ c.toNat) (n : Nat) : Plain (List.replicate n c) := by
  intro d hd
  rwa [List.eq_of_mem_replicate hd]

theorem toDigits (n : Nat) : Plain (Nat.toDigits 10 n) := by
  intro c hc
  have hdigit := Nat.isDigit_of_mem_toDigits (by decide) (by decide) hc
  rw [Char.isDigit, Bool.and_eq_true, decide_eq_true_eq, ge_iff_le,
    UInt32.le_iff_toNat_le] at hdigit
  exact Nat.le_trans (by decide) hdigit.1

theorem newline_not_mem (h : Plain cs) : '\n' ∉ cs := fun hn => absurd (h '\n' hn) (by decide)

end Plain

/-! ### Numbers -/

namespace NumberLayout

variable (l : NumberLayout) {digits : List Char}

theorem plain_writePositional (h : Plain digits) (point : Int) :
    Plain (l.writePositional digits point) := by
  have hzero {n : Nat} : Plain (List.replicate n '0') := .replicate (by decide) n
  unfold writePositional
  split
  · have hopen : Plain ['0', '.'] := by decide
    exact (hopen.append hzero).append h
  split
  · have htail : Plain (if l.pointZero then ['.', '0'] else []) := by split <;> decide
    exact (h.append hzero).append htail
  · have hpoint : Plain ['.'] := by decide
    exact ((h.take _).append hpoint).append (h.drop _)

theorem plain_writeExponent (h : Plain digits) (point : Int) :
    Plain (l.writeExponent digits point) := by
  have hfraction : Plain (if digits.length ≤ 1 then [] else '.' :: digits.drop 1) := by
    split
    · exact .nil
    · exact .cons (by decide) (h.drop 1)
  have hsign : Plain (if point - 1 < 0 then ['-'] else if l.plus then ['+'] else []) := by
    split
    · decide
    · split <;> decide
  have he : Plain ['e'] := by decide
  exact ((((h.take 1).append hfraction).append he).append hsign).append (.toDigits _)

theorem plain_writeDecimal (d : Decimal) : Plain (l.writeDecimal d) := by
  have hdigits : Plain (Nat.toDigits 10 d.digits) := .toDigits _
  unfold writeDecimal
  dsimp only
  split
  · exact l.plain_writePositional hdigits 1
  split
  · exact l.plain_writePositional hdigits _
  · exact l.plain_writeExponent hdigits _

theorem plain_write (hinfinite : Plain l.infinite.toList) (hnan : Plain l.nan.toList)
    (x : FloatValue) : Plain (l.write x) := by
  have hsign (negative : Bool) : Plain (if negative then ['-'] else []) := by
    cases negative <;> decide
  cases x with
  | nan => exact hnan
  | infinite negative => exact (hsign negative).append hinfinite
  | finite negative b => exact (hsign negative).append (l.plain_writeDecimal _)

end NumberLayout

namespace Json

theorem plain_writeInt (i : Int) : Plain (writeInt i) := by
  unfold writeInt
  split
  · exact .cons (by decide) (.toDigits _)
  · exact .toDigits _

theorem plain_writeFloat (bits : UInt64) : Plain (writeFloat bits) :=
  numberLayout.plain_write (by decide) (by decide) _

/-! ### Strings -/

theorem le_digitChar {n : Nat} (h : n < 16) : 0x20 ≤ (Nat.digitChar n).toNat := by
  revert n
  decide

theorem plain_escapeChar (c : Char) : Plain (escapeChar c) := by
  have hunit (h : c.toNat < 0x20) :
      Plain ['\\', 'u', '0', '0', Nat.digitChar (c.toNat / 16), Nat.digitChar (c.toNat % 16)] := by
    have hhigh : 0x20 ≤ (Nat.digitChar (c.toNat / 16)).toNat := le_digitChar (by omega)
    have hlow : 0x20 ≤ (Nat.digitChar (c.toNat % 16)).toNat := le_digitChar (by omega)
    have hopen : Plain ['\\', 'u', '0', '0'] := by decide
    exact hopen.append (.cons hhigh (.cons hlow .nil))
  unfold escapeChar
  repeat' split
  -- all escapes of one letter are closed texts
  all_goals try decide
  · next h => exact hunit h
  · next h => exact .cons (Nat.not_lt.mp h) .nil

theorem plain_escape (s : String) : Plain (escape s) := by
  refine .cons (by decide) (.append (fun c hc => ?_) (by decide))
  obtain ⟨d, -, hc⟩ := List.mem_flatMap.mp hc
  exact plain_escapeChar d c hc

/-! ### Values -/

mutual

/-- A printed value has no control characters. -/
theorem plain_write : ∀ v : Json, Plain v.write
  | .null => by decide
  | .bool true => by decide
  | .bool false => by decide
  | .int i => plain_writeInt i
  | .float bits => plain_writeFloat bits
  | .str s => plain_escape s
  | .arr items => .cons (by decide) ((plain_writeItems items).append (by decide))
  | .obj members => .cons (by decide) ((plain_writeMembers members).append (by decide))

theorem plain_writeItems : ∀ vs : List Json, Plain (writeItems vs)
  | [] => .nil
  | [v] => plain_write v
  | v :: w :: vs => (plain_write v).append (.cons (by decide) (plain_writeItems (w :: vs)))

theorem plain_writeMembers : ∀ ms : List (String × Json), Plain (writeMembers ms)
  | [] => .nil
  | [(k, v)] => (plain_escape k).append (.cons (by decide) (plain_write v))
  | (k, v) :: m :: ms =>
    ((plain_escape k).append (.cons (by decide) (plain_write v))).append
      (.cons (by decide) (plain_writeMembers (m :: ms)))

end

end Json

end EditorSession
