import EditorSession.Json.Printer
import EditorSession.Json.Reader
import Mathlib.Data.List.TakeWhile

/-! Printed values are read back.

A character that is written in quotes is read as itself, however it is escaped, and the digits of an
integer are read as the integer that they are written for, if it fits 64 bits. The text may go on
after the value, but not with what could be more of a numeral. An object is read member by member
(`Json.membersWithin_more`, `Json.membersWithin_last`). -/

namespace EditorSession
namespace Json

/-! ### Strings -/

theorem hexUnit?_of_lt (n : Nat) (h : n < 0x20) :
    hexUnit? '0' '0' (Nat.digitChar (n / 16)) (Nat.digitChar (n % 16)) = some n := by
  decide +revert

theorem readStringAfter_escapeChar (acc : List Char) (c : Char) (rest : List Char) :
    readStringAfter acc none (escapeChar c ++ rest) = readStringAfter (c :: acc) none rest := by
  unfold escapeChar
  split
  · subst c
    rfl
  split
  · subst c
    rfl
  split
  · subst c
    rfl
  split
  · subst c
    rfl
  split
  · subst c
    rfl
  split
  · subst c
    rfl
  split
  · subst c
    rfl
  split
  · next hcontrol =>
    have hmeaning : unitMeaning? none c.toNat = some (.char c) := by
      have hlow : ¬(0xDC00 ≤ c.toNat) := by omega
      have hhigh : ¬(0xD800 ≤ c.toNat) := by omega
      simp [unitMeaning?, hlow, hhigh, Char.ofNat_toNat]
    simp only [List.cons_append, List.nil_append, readStringAfter,
      hexUnit?_of_lt c.toNat hcontrol, Option.bind_some, hmeaning]
  · next hquote hbackslash _ _ _ _ _ hcontrol =>
    have hplain : (0x20 ≤ c.toNat && c != '\\') = true := by
      simp [hbackslash, Nat.le_of_not_lt hcontrol]
    rw [List.singleton_append, readStringAfter, Option.isNone_none, Bool.true_and, if_pos hplain]
    · exact fun _ _ _ _ _ hc _ => hbackslash hc
    · exact fun _ _ hc _ => hbackslash hc
    · exact hquote

/-- A string in quotes is read as it is. -/
theorem readString?_escape (s : String) (rest : List Char) :
    readString? (s.toList.flatMap escapeChar ++ '"' :: rest) = some (s, rest) := by
  have hafter (acc cs : List Char) :
      readStringAfter acc none (cs.flatMap escapeChar ++ '"' :: rest) =
        some (acc.reverse ++ cs, rest) := by
    induction cs generalizing acc with
    | nil => simp [readStringAfter]
    | cons c cs ih =>
      rw [List.flatMap_cons, List.append_assoc, readStringAfter_escapeChar, ih]
      simp
  rw [readString?, hafter]
  simp

/-! ### Integers -/

/-- What may follow a numeral: it does not go on. -/
def EndsNumeral (rest : List Char) : Prop :=
  ∀ c ∈ rest.head?, c.isDigit = false ∧ c ≠ '.' ∧ c ≠ 'e' ∧ c ≠ 'E'

theorem endsNumeral_brace (rest : List Char) : EndsNumeral ('\x7d' :: rest) := by
  intro c hc
  cases hc
  decide

theorem takeDigits_toDigits {n : Nat} {rest : List Char} (hrest : EndsNumeral rest) :
    takeDigits (Nat.toDigits 10 n ++ rest) = ((Nat.toDigits 10 n).map digit, rest) := by
  have hdigits : ∀ c ∈ Nat.toDigits 10 n, c.isDigit = true := fun c hc =>
    Nat.isDigit_of_mem_toDigits (by decide) (by decide) hc
  have hnone : rest.takeWhile Char.isDigit = [] ∧ rest.dropWhile Char.isDigit = rest := by
    cases rest with
    | nil => exact ⟨rfl, rfl⟩
    | cons c cs => simp [(hrest c rfl).1]
  rw [takeDigits, List.takeWhile_append_of_pos hdigits, List.dropWhile_append_of_pos hdigits,
    hnone.1, hnone.2, List.append_nil]

theorem ofDigits_toDigits (n : Nat) : ofDigits ((Nat.toDigits 10 n).map digit) = n := by
  rw [ofDigits, List.foldl_map]
  exact Nat.ofDigitChars_ten_toDigits

/-- Only zero is written with a zero in front. -/
theorem toDigits_ne_zero_cons (n d : Nat) (ds : List Nat) :
    (Nat.toDigits 10 n).map digit ≠ 0 :: d :: ds := by
  induction n using Nat.strong_induction_on generalizing d ds with
  | _ n ih =>
    intro h
    by_cases hn : n < 10
    · rw [Nat.toDigits_of_lt_base hn] at h
      exact List.cons_ne_nil d ds (List.cons.inj h).2.symm
    · have hfront := ofDigits_toDigits (n / 10)
      rw [Nat.toDigits_of_base_le (by decide) (Nat.le_of_not_lt hn), List.map_append] at h
      cases hdigits : (Nat.toDigits 10 (n / 10)).map digit with
      | nil => exact Nat.toDigits_ne_nil (List.map_eq_nil_iff.mp hdigits)
      | cons x xs =>
        rw [hdigits, List.cons_append] at h
        obtain ⟨rfl, hxs⟩ := List.cons.inj h
        cases xs with
        | nil =>
          rw [hdigits] at hfront
          have hzero : 0 = n / 10 := hfront
          omega
        | cons y ys => exact ih (n / 10) (by omega) y ys hdigits

namespace NumberToken

theorem readWhole?_toDigits {n : Nat} {rest : List Char} (hrest : EndsNumeral rest) :
    readWhole? (Nat.toDigits 10 n ++ rest) = some ((Nat.toDigits 10 n).map digit, rest) := by
  rw [readWhole?, takeDigits_toDigits hrest]
  split
  · next h => exact (Nat.toDigits_ne_nil (List.map_eq_nil_iff.mp (congrArg Prod.fst h))).elim
  · next h => exact (toDigits_ne_zero_cons n _ _ (congrArg Prod.fst h)).elim
  · next h =>
    cases h
    rfl

theorem read?_writeInt (i : Int) {rest : List Char} (hrest : EndsNumeral rest) :
    read? (writeInt i ++ rest) =
      some (⟨decide (i < 0), (Nat.toDigits 10 i.natAbs).map digit, none, none⟩, rest) := by
  have hfraction : readFraction? rest = some (none, rest) := by
    unfold readFraction?
    split
    · exact ((hrest '.' rfl).2.1 rfl).elim
    · rfl
  have hexponent : readExponent? rest = some (none, rest) := by
    cases rest with
    | nil => rfl
    | cons c cs => rw [readExponent?, if_neg (not_or.mpr (hrest c rfl).2.2)]
  unfold writeInt
  split
  · next hi => simp [read?, readWhole?_toDigits hrest, hfraction, hexponent, hi]
  · next hi =>
    -- the first character is a digit, so no sign is taken off
    have hsign : ∀ cs, Nat.toDigits 10 i.natAbs ++ rest ≠ '-' :: cs := by
      intro cs h
      obtain ⟨c, ds, hdigits⟩ := List.exists_cons_of_ne_nil (Nat.toDigits_ne_nil (n := i.natAbs))
      rw [hdigits] at h
      have hc : c ∈ Nat.toDigits 10 i.natAbs := hdigits ▸ List.mem_cons_self
      rw [(List.cons.inj h).1] at hc
      cases Nat.isDigit_of_mem_toDigits (by decide) (by decide) hc
    unfold read?
    split
    · next heq =>
      split at heq
      · next hcs => exact (hsign _ hcs).elim
      · cases heq
        simp [readWhole?_toDigits hrest, hfraction, hexponent, hi]

theorem value?_int {i : Int} (hmin : Int64.minValue.toInt ≤ i) (hmax : i ≤ Int64.maxValue.toInt) :
    value? ⟨decide (i < 0), (Nat.toDigits 10 i.natAbs).map digit, none, none⟩ = some (.int i) := by
  have hlimit : Int64.maxValue.toInt < UInt64.size := by decide
  unfold value?
  simp only [ofDigits_toDigits, and_self, if_true, decide_eq_true_eq]
  split
  · next hi =>
    have hneg : -(i.natAbs : Int) = i := by omega
    rw [hneg, if_pos ⟨by omega, hmin⟩]
  · next hi =>
    have hpos : (i.natAbs : Int) = i := by omega
    rw [if_pos (by omega), hpos]

theorem readWhole?_of_not_isDigit {c : Char} (hc : c.isDigit = false) (cs : List Char) :
    readWhole? (c :: cs) = none := by
  simp [readWhole?, takeDigits, hc]

/-- A numeral begins with a sign or a digit. -/
theorem head_of_read? {cs rest : List Char} {token : NumberToken}
    (h : read? cs = some (token, rest)) :
    ∃ c more, cs = c :: more ∧ (c = '-' ∨ c.isDigit = true) := by
  cases cs with
  | nil => cases h
  | cons c more =>
    refine ⟨c, more, rfl, or_iff_not_imp_left.mpr fun hsign => ?_⟩
    by_contra hdigit
    rw [Bool.not_eq_true] at hdigit
    unfold read? at h
    split at h
    next heq =>
      split at heq
      · next hcs => exact hsign (List.cons.inj hcs).1
      · cases heq
        rw [readWhole?_of_not_isDigit hdigit] at h
        cases h

end NumberToken

/-! ### Values

The bound on the steps that are left and the text after the value are any, so that these lemmas also
hold for a value inside another one. -/

/-- A value that is a numeral. -/
theorem valueWithin_of_numeral {fuel depth : Nat} {cs rest : List Char} {token : NumberToken}
    (h : NumberToken.read? cs = some (token, rest)) :
    valueWithin (fuel + 1) depth cs = token.value?.map (·, rest) := by
  obtain ⟨c, more, rfl, hc⟩ := NumberToken.head_of_read? h
  have hspace : skipSpace (c :: more) = c :: more := by
    refine List.dropWhile_cons_of_neg fun hs => ?_
    simp only [isSpace, Bool.or_eq_true, beq_iff_eq] at hs
    rcases hs with ((rfl | rfl) | rfl) | rfl <;> exact absurd hc (by decide)
  have hno {d : Char} {cs : List Char} (hd : ¬(d = '-' ∨ d.isDigit = true)) :
      c :: more ≠ d :: cs := by
    intro heq
    rw [(List.cons.inj heq).1] at hc
    exact hd hc
  rw [valueWithin, hspace]
  split
  case h_7 =>
    rw [h]
    change token.value?.bind (fun v => some (v, rest)) = _
    cases token.value? <;> rfl
  all_goals
    rename_i heq
    exact (hno (by decide) heq).elim

theorem valueWithin_writeInt {fuel depth : Nat} {i : Int} {rest : List Char}
    (hmin : Int64.minValue.toInt ≤ i) (hmax : i ≤ Int64.maxValue.toInt) (hrest : EndsNumeral rest) :
    valueWithin (fuel + 1) depth (writeInt i ++ rest) = some (.int i, rest) := by
  rw [valueWithin_of_numeral (NumberToken.read?_writeInt i hrest), NumberToken.value?_int hmin hmax]
  rfl

theorem escape_append (s : String) (rest : List Char) :
    escape s ++ rest = '"' :: (s.toList.flatMap escapeChar ++ '"' :: rest) := by
  simp [escape]

theorem valueWithin_escape {fuel depth : Nat} (s : String) (rest : List Char) :
    valueWithin (fuel + 1) depth (escape s ++ rest) = some (.str s, rest) := by
  rw [escape_append, valueWithin]
  change (readString? _).map _ = _
  rw [readString?_escape]
  rfl

/-! ### Members -/

theorem key?_escape (s : String) (rest : List Char) :
    key? (escape s ++ ':' :: rest) = some (s, rest) := by
  have hopen : skipSpace (escape s ++ ':' :: rest) =
      '"' :: (s.toList.flatMap escapeChar ++ '"' :: ':' :: rest) := by
    rw [escape_append]
    rfl
  simp only [key?, hopen, readString?_escape]
  rfl

theorem valueWithin_brace {fuel depth : Nat} (key : String) (more : List Char) :
    valueWithin (fuel + 1) (depth + 1) ('\x7b' :: (escape key ++ more)) =
      membersWithin fuel depth [] (escape key ++ more) := by
  rw [escape_append]
  rfl

section

variable {fuel depth : Nat} {v : Json} {value rest : List Char}

theorem membersWithin_more (key : String) (acc : List (String × Json))
    (h : valueWithin fuel depth value = some (v, ',' :: rest)) :
    membersWithin (fuel + 1) depth acc (escape key ++ ':' :: value) =
      membersWithin fuel depth (insertMember key v acc) rest := by
  rw [membersWithin, key?_escape]
  simp only [h]
  rfl

theorem membersWithin_last (key : String) (acc : List (String × Json))
    (h : valueWithin fuel depth value = some (v, '\x7d' :: rest)) :
    membersWithin (fuel + 1) depth acc (escape key ++ ':' :: value) =
      some (.obj (insertMember key v acc), rest) := by
  rw [membersWithin, key?_escape]
  simp only [h]
  rfl

end

end Json

end EditorSession
