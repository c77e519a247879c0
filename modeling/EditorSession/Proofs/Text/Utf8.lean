import EditorSession.Text.Utf8
import Mathlib.Data.List.Basic

/-! UTF-8 reading undoes UTF-8 writing, and reads nothing else.

`Utf8.decode?_eq_some_iff` says that a byte string reads as a text exactly if it is the encoding of
that text. The machine's part is `Pending.Completes`: the bytes that finish a sequence, and the
character that they give. A pending sequence is `Pending.Sound` if every such character is encoded
by the bytes seen and the bytes that finish it; first bytes are sound, and a further byte keeps a
sequence sound. -/

namespace EditorSession
namespace Utf8

/-! ### First bytes -/

theorem first_one {b : UInt8} (h : b.toNat < 0x80) :
    first b = ([.char (Char.ofNat b.toNat)], none) := by
  simp [first, h]

theorem first_two {b : UInt8} (h : 0xC2 ≤ b.toNat) (h' : b.toNat < 0xE0) :
    first b = ([], some { seen := [b], value := b.toNat - 0xC0, owed := 1 }) := by
  simp [first, show ¬b.toNat < 0x80 by omega, show ¬b.toNat < 0xC2 by omega, h']

theorem first_three {b : UInt8} (h : 0xE0 ≤ b.toNat) (h' : b.toNat < 0xF0) :
    first b = ([], some { seen := [b], value := b.toNat - 0xE0, owed := 2,
                          low := if b.toNat = 0xE0 then 0xA0 else 0x80,
                          high := if b.toNat = 0xED then 0x9F else 0xBF }) := by
  by_cases h0 : b.toNat = 0xE0
  · simp [first, h0]
  by_cases hd : b.toNat = 0xED
  · simp [first, hd]
  simp [first, show ¬b.toNat < 0x80 by omega, show ¬b.toNat < 0xC2 by omega,
    show ¬b.toNat < 0xE0 by omega, h0, hd, h']

theorem first_four {b : UInt8} (h : 0xF0 ≤ b.toNat) (h' : b.toNat < 0xF5) :
    first b = ([], some { seen := [b], value := b.toNat - 0xF0, owed := 3,
                          low := if b.toNat = 0xF0 then 0x90 else 0x80,
                          high := if b.toNat = 0xF4 then 0x8F else 0xBF }) := by
  by_cases h0 : b.toNat = 0xF0
  · simp [first, h0]
  by_cases h4 : b.toNat = 0xF4
  · simp [first, h4]
  simp [first, show ¬b.toNat < 0x80 by omega, show ¬b.toNat < 0xC2 by omega,
    show ¬b.toNat < 0xE0 by omega, show b.toNat ≠ 0xE0 by omega, show b.toNat ≠ 0xED by omega,
    show ¬b.toNat < 0xF0 by omega, h0, h4, show b.toNat < 0xF4 by omega]

/-- Any other byte is wrong. -/
theorem first_wrong {b : UInt8} (h : 0x80 ≤ b.toNat)
    (h' : b.toNat < 0xC2 ∨ 0xF5 ≤ b.toNat) : first b = ([.broken [b]], none) := by
  rcases h' with h' | h'
  · simp [first, show ¬b.toNat < 0x80 by omega, h']
  · simp [first, show ¬b.toNat < 0x80 by omega, show ¬b.toNat < 0xC2 by omega,
      show ¬b.toNat < 0xE0 by omega, show b.toNat ≠ 0xE0 by omega, show b.toNat ≠ 0xED by omega,
      show ¬b.toNat < 0xF0 by omega, show b.toNat ≠ 0xF0 by omega, show b.toNat ≠ 0xF4 by omega,
      show ¬b.toNat < 0xF4 by omega]

/-! ### Finishing a sequence -/

namespace Pending

/-- The bytes `ts` finish a sequence and give the character `c`. -/
inductive Completes : Pending → List UInt8 → Char → Prop
  | last {p : Pending} {b : UInt8} (howed : p.owed ≤ 1) (hb : p.accepts b) :
    Completes p [b] (Char.ofNat (p.value * 64 + (b.toNat - 0x80)))
  | more {p q : Pending} {b : UInt8} {ts : List UInt8} {c : Char} (hb : p.accepts b)
    (hq : p.push b = ([], some q)) (h : Completes q ts c) : Completes p (b :: ts) c

theorem accepts_iff {p : Pending} {b : UInt8} :
    p.accepts b = true ↔ p.low.toNat ≤ b.toNat ∧ b.toNat ≤ p.high.toNat := by
  simp [accepts, UInt8.le_iff_toNat_le]

theorem push_of_owed {p : Pending} (h : ¬p.owed ≤ 1) (b : UInt8) :
    p.push b = ([], some { seen := p.seen ++ [b], value := p.value * 64 + (b.toNat - 0x80),
                           owed := p.owed - 1 }) := by
  simp [push, h]

theorem seen_of_push {p q : Pending} {b : UInt8} (h : p.push b = ([], some q)) :
    q.seen = p.seen ++ [b] := by
  unfold push at h
  split at h
  · cases h
  · cases h
    rfl

theorem Completes.scan_append {p : Pending} {ts : List UInt8} {c : Char} (h : p.Completes ts c)
    (rest : List UInt8) : scan (some p) (ts ++ rest) = .char c :: scan none rest := by
  induction h with
  | last howed hb => simp [scan, step, hb, push, howed]
  | more hb hq _ ih => simp [scan, step, hb, hq, ih]

/-- What finishes a sequence gives a character whose encoding begins with the bytes seen. -/
def Sound (p : Pending) : Prop :=
  ∀ ts c, p.Completes ts c → String.utf8EncodeChar c = p.seen ++ ts

theorem Sound.push {p q : Pending} {b : UInt8} (h : p.Sound) (hb : p.accepts b)
    (hq : p.push b = ([], some q)) : q.Sound := by
  intro ts c hc
  rw [h _ _ (.more hb hq hc), seen_of_push hq, List.append_assoc, List.singleton_append]

end Pending

/-! ### Characters of each length -/

theorem toNat_ofNat_of_valid {v : Nat} (h : v.isValidChar) : (Char.ofNat v).val.toNat = v := by
  rw [Char.ofNat, dif_pos h]
  rfl

theorem encodeChar_one {v : Nat} (h : v < 0x80) :
    String.utf8EncodeChar (Char.ofNat v) = [UInt8.ofNat v] := by
  have hv := toNat_ofNat_of_valid (v := v) (.inl (by omega))
  simp only [String.utf8EncodeChar, hv]
  rw [if_pos (by omega)]

theorem encodeChar_two {v : Nat} (h : 0x80 ≤ v) (h' : v < 0x800) :
    String.utf8EncodeChar (Char.ofNat v) =
      [UInt8.ofNat (v / 64 + 0xC0), UInt8.ofNat (v % 64 + 0x80)] := by
  have hv := toNat_ofNat_of_valid (v := v) (.inl (by omega))
  simp only [String.utf8EncodeChar, hv]
  rw [if_neg (by omega), if_pos (by omega), Nat.mod_eq_of_lt (a := v / 64) (by omega)]

theorem encodeChar_three {v : Nat} (h : 0x800 ≤ v) (h' : v < 0x10000) (hv : v.isValidChar) :
    String.utf8EncodeChar (Char.ofNat v) =
      [UInt8.ofNat (v / 4096 + 0xE0), UInt8.ofNat (v / 64 % 64 + 0x80),
        UInt8.ofNat (v % 64 + 0x80)] := by
  simp only [String.utf8EncodeChar, toNat_ofNat_of_valid hv]
  rw [if_neg (by omega), if_neg (by omega), if_pos (by omega),
    Nat.mod_eq_of_lt (a := v / 4096) (by omega)]

theorem encodeChar_four {v : Nat} (h : 0x10000 ≤ v) (h' : v < 0x110000) :
    String.utf8EncodeChar (Char.ofNat v) =
      [UInt8.ofNat (v / 262144 + 0xF0), UInt8.ofNat (v / 4096 % 64 + 0x80),
        UInt8.ofNat (v / 64 % 64 + 0x80), UInt8.ofNat (v % 64 + 0x80)] := by
  have hv := toNat_ofNat_of_valid (v := v) (.inr (by omega))
  simp only [String.utf8EncodeChar, hv]
  rw [if_neg (by omega), if_neg (by omega), if_neg (by omega),
    Nat.mod_eq_of_lt (a := v / 262144) (by omega)]

theorem toNat_byte {n : Nat} (h : n < 256) : (UInt8.ofNat n).toNat = n := by
  rw [UInt8.toNat_ofNat', Nat.mod_eq_of_lt (by simpa using h)]

theorem eq_ofNat_iff {b : UInt8} {n : Nat} (h : n < 256) : UInt8.ofNat n = b ↔ n = b.toNat := by
  rw [← UInt8.toNat_inj, toNat_byte h]

namespace Pending

theorem Completes.of_owed_one {p : Pending} {ts : List UInt8} {c : Char} (h : p.Completes ts c)
    (howed : p.owed = 1) : ∃ x, ts = [x] ∧ (p.low.toNat ≤ x.toNat ∧ x.toNat ≤ p.high.toNat) ∧
      c = Char.ofNat (p.value * 64 + (x.toNat - 0x80)) := by
  cases h with
  | last _ hb => exact ⟨_, rfl, accepts_iff.mp hb, rfl⟩
  | more _ hq _ =>
    rw [push, if_pos (by omega)] at hq
    cases hq

/-- With more bytes owed, the first of them leads to a sequence that owes one less. -/
theorem Completes.of_owed {p : Pending} {ts : List UInt8} {c : Char} (h : p.Completes ts c)
    (howed : ¬p.owed ≤ 1) : ∃ x rest, ts = x :: rest ∧
      (p.low.toNat ≤ x.toNat ∧ x.toNat ≤ p.high.toNat) ∧
      Completes { seen := p.seen ++ [x], value := p.value * 64 + (x.toNat - 0x80),
                  owed := p.owed - 1 } rest c := by
  cases h with
  | last h _ => exact (howed h).elim
  | more hb hq h =>
    rw [push_of_owed howed] at hq
    cases hq
    exact ⟨_, _, rfl, accepts_iff.mp hb, h⟩

theorem sound_two {b : UInt8} (h : 0xC2 ≤ b.toNat) (h' : b.toNat < 0xE0) :
    Sound { seen := [b], value := b.toNat - 0xC0, owed := 1 } := by
  intro ts c hc
  obtain ⟨x, rfl, hx, hc⟩ := hc.of_owed_one rfl
  simp only [UInt8.reduceToNat] at hx hc ⊢
  rw [hc, encodeChar_two (by omega) (by omega)]
  simp only [List.singleton_append, List.cons.injEq, and_true]
  constructor
  · rw [eq_ofNat_iff (by omega)]
    omega
  · rw [eq_ofNat_iff (by omega)]
    omega

theorem sound_three {b : UInt8} (h : 0xE0 ≤ b.toNat) (h' : b.toNat < 0xF0) :
    Sound { seen := [b], value := b.toNat - 0xE0, owed := 2,
            low := if b.toNat = 0xE0 then 0xA0 else 0x80,
            high := if b.toNat = 0xED then 0x9F else 0xBF } := by
  intro ts c hc
  obtain ⟨x, _, rfl, hx, hc⟩ := hc.of_owed (by simp)
  obtain ⟨y, rfl, hy, hc⟩ := hc.of_owed_one rfl
  simp only [apply_ite UInt8.toNat, UInt8.reduceToNat] at hx hy hc ⊢
  -- the bounds on `x` keep the value above the shorter forms and off the surrogates
  have hlow : b.toNat = 0xE0 → 0xA0 ≤ x.toNat := fun hb => by simpa [hb] using hx.1
  have hhigh : b.toNat = 0xED → x.toNat ≤ 0x9F := fun hb => by simpa [hb] using hx.2
  have hx' : 0x80 ≤ x.toNat ∧ x.toNat ≤ 0xBF := by
    constructor
    · have := hx.1
      split at this <;> omega
    · have := hx.2
      split at this <;> omega
  rw [hc, encodeChar_three (by omega) (by omega) (by unfold Nat.isValidChar; omega)]
  simp only [List.singleton_append, List.cons.injEq, and_true]
  refine ⟨?_, ?_, ?_⟩ <;> rw [eq_ofNat_iff (by omega)] <;> omega

theorem sound_four {b : UInt8} (h : 0xF0 ≤ b.toNat) (h' : b.toNat < 0xF5) :
    Sound { seen := [b], value := b.toNat - 0xF0, owed := 3,
            low := if b.toNat = 0xF0 then 0x90 else 0x80,
            high := if b.toNat = 0xF4 then 0x8F else 0xBF } := by
  intro ts c hc
  obtain ⟨x, _, rfl, hx, hc⟩ := hc.of_owed (by simp)
  obtain ⟨y, _, rfl, hy, hc⟩ := hc.of_owed (by simp)
  obtain ⟨z, rfl, hz, hc⟩ := hc.of_owed_one rfl
  simp only [apply_ite UInt8.toNat, UInt8.reduceToNat] at hx hy hz hc ⊢
  -- the bounds on `x` keep the value above the shorter forms and below the last code point
  have hlow : b.toNat = 0xF0 → 0x90 ≤ x.toNat := fun hb => by simpa [hb] using hx.1
  have hhigh : b.toNat = 0xF4 → x.toNat ≤ 0x8F := fun hb => by simpa [hb] using hx.2
  have hx' : 0x80 ≤ x.toNat ∧ x.toNat ≤ 0xBF := by
    constructor
    · have := hx.1
      split at this <;> omega
    · have := hx.2
      split at this <;> omega
  rw [hc, encodeChar_four (by omega) (by omega)]
  simp only [List.singleton_append, List.cons.injEq, and_true]
  refine ⟨?_, ?_, ?_, ?_⟩ <;> rw [eq_ofNat_iff (by omega)] <;> omega

end Pending

/-- A first byte is a character, is wrong, or opens a sequence that begins with it. -/
theorem first_cases (b : UInt8) :
    (∃ c, first b = ([.char c], none) ∧ String.utf8EncodeChar c = [b]) ∨
      first b = ([.broken [b]], none) ∨ ∃ p, first b = ([], some p) ∧ p.Sound ∧ p.seen = [b] := by
  by_cases h1 : b.toNat < 0x80
  · refine .inl ⟨_, first_one h1, ?_⟩
    rw [encodeChar_one h1, UInt8.ofNat_toNat]
  by_cases hw : b.toNat < 0xC2 ∨ 0xF5 ≤ b.toNat
  · exact .inr (.inl (first_wrong (by omega) hw))
  refine .inr (.inr ?_)
  by_cases h2 : b.toNat < 0xE0
  · exact ⟨_, first_two (by omega) h2, Pending.sound_two (by omega) h2, rfl⟩
  by_cases h3 : b.toNat < 0xF0
  · exact ⟨_, first_three (by omega) h3, Pending.sound_three (by omega) h3, rfl⟩
  · exact ⟨_, first_four (by omega) (by omega), Pending.sound_four (by omega) (by omega), rfl⟩

/-! ### Reading back -/

namespace Pending

theorem Completes.ofLast {p : Pending} {b : UInt8} {v : Nat} (howed : p.owed ≤ 1)
    (hb : p.low.toNat ≤ b.toNat ∧ b.toNat ≤ p.high.toNat)
    (hv : p.value * 64 + (b.toNat - 0x80) = v) : p.Completes [b] (Char.ofNat v) :=
  hv ▸ .last howed (accepts_iff.mpr hb)

theorem Completes.ofMore {p : Pending} {b : UInt8} {ts : List UInt8} {c : Char}
    (howed : ¬p.owed ≤ 1) (hb : p.low.toNat ≤ b.toNat ∧ b.toNat ≤ p.high.toNat)
    (h : Completes { seen := p.seen ++ [b], value := p.value * 64 + (b.toNat - 0x80),
                     owed := p.owed - 1 } ts c) : p.Completes (b :: ts) c :=
  .more (accepts_iff.mpr hb) (push_of_owed howed b) h

end Pending

/-- A character is its own first byte, or its first byte opens a sequence that the others finish. -/
theorem encodeChar_cases (c : Char) :
    (∃ b, String.utf8EncodeChar c = [b] ∧ first b = ([.char c], none)) ∨
      ∃ b ts p, String.utf8EncodeChar c = b :: ts ∧ first b = ([], some p) ∧ p.Completes ts c := by
  obtain ⟨v, hv, rfl⟩ : ∃ v, Nat.isValidChar v ∧ Char.ofNat v = c :=
    ⟨c.toNat, c.valid, Char.ofNat_toNat c⟩
  unfold Nat.isValidChar at hv
  have last : (UInt8.ofNat (v % 64 + 0x80)).toNat = v % 64 + 0x80 := toNat_byte (by omega)
  have second : (UInt8.ofNat (v / 64 % 64 + 0x80)).toNat = v / 64 % 64 + 0x80 :=
    toNat_byte (by omega)
  have third : (UInt8.ofNat (v / 4096 % 64 + 0x80)).toNat = v / 4096 % 64 + 0x80 :=
    toNat_byte (by omega)
  by_cases h1 : v < 0x80
  · refine .inl ⟨_, encodeChar_one h1, ?_⟩
    rw [first_one] <;> rw [toNat_byte (by omega)]
    exact h1
  right
  by_cases h2 : v < 0x800
  · have hb : (UInt8.ofNat (v / 64 + 0xC0)).toNat = v / 64 + 0xC0 := toNat_byte (by omega)
    refine ⟨_, _, _, encodeChar_two (by omega) h2, first_two (by omega) (by omega), ?_⟩
    refine .ofLast (by simp) ?_ ?_
    · simp only [last, UInt8.reduceToNat]
      omega
    · simp only [last, hb]
      omega
  by_cases h3 : v < 0x10000
  · have hb : (UInt8.ofNat (v / 4096 + 0xE0)).toNat = v / 4096 + 0xE0 := toNat_byte (by omega)
    refine ⟨_, _, _, encodeChar_three (by omega) h3 hv, first_three (by omega) (by omega), ?_⟩
    refine .ofMore (by simp) ?_ (.ofLast (by simp) ?_ ?_)
    · simp only [second, hb, apply_ite UInt8.toNat, UInt8.reduceToNat]
      constructor <;> split <;> omega
    · simp only [last, UInt8.reduceToNat]
      omega
    · simp only [last, second, hb]
      omega
  · have hb : (UInt8.ofNat (v / 262144 + 0xF0)).toNat = v / 262144 + 0xF0 :=
      toNat_byte (by omega)
    refine ⟨_, _, _, encodeChar_four (by omega) (by omega), first_four (by omega) (by omega), ?_⟩
    refine .ofMore (by simp) ?_ (.ofMore (by simp) ?_ (.ofLast (by simp) ?_ ?_))
    · simp only [third, hb, apply_ite UInt8.toNat, UInt8.reduceToNat]
      constructor <;> split <;> omega
    · simp only [second, UInt8.reduceToNat]
      omega
    · simp only [last, UInt8.reduceToNat]
      omega
    · simp only [last, second, third, hb]
      omega

theorem scan_encodeChar (c : Char) (rest : List UInt8) :
    scan none (String.utf8EncodeChar c ++ rest) = .char c :: scan none rest := by
  rcases encodeChar_cases c with ⟨b, he, hb⟩ | ⟨b, ts, p, he, hb, hp⟩
  · rw [he]
    simp [scan, step, hb]
  · rw [he, List.cons_append, scan, step, hb, List.nil_append]
    exact hp.scan_append rest

theorem pieces_encode (cs : List Char) : pieces (encode cs) = cs.map .char := by
  induction cs with
  | nil => rfl
  | cons c cs ih =>
    rw [encode, List.flatMap_cons, pieces, scan_encodeChar, List.map_cons]
    exact congrArg _ ih

/-- Cutting bytes into pieces loses none of them, between characters and inside a sequence. -/
theorem flatMap_bytes_scan (bs : List UInt8) :
    (scan none bs).flatMap Piece.bytes = bs ∧
      ∀ p : Pending, p.Sound → (scan (some p) bs).flatMap Piece.bytes = p.seen ++ bs := by
  induction bs with
  | nil => exact ⟨rfl, fun p _ => by simp [scan, Piece.bytes]⟩
  | cons b bs ih =>
    have hfirst : ((first b).1 ++ scan (first b).2 bs).flatMap Piece.bytes = b :: bs := by
      rcases first_cases b with ⟨c, hb, hc⟩ | hb | ⟨p, hb, hp, hseen⟩
      · simp [hb, Piece.bytes, hc, ih.1]
      · simp [hb, Piece.bytes, ih.1]
      · simp [hb, ih.2 p hp, hseen]
    refine ⟨hfirst, fun p hp => ?_⟩
    rw [scan, step]
    split
    · next hb =>
      by_cases howed : p.owed ≤ 1
      · have hc := hp _ _ (.last howed hb)
        simp [Pending.push, howed, Piece.bytes, hc, ih.1]
      · have hq := Pending.push_of_owed howed b
        rw [hq, List.nil_append, ih.2 _ (hp.push hb hq), List.append_assoc, List.singleton_append]
    · rw [List.cons_append, List.flatMap_cons, hfirst]
      rfl

theorem mapM_char?_eq_some_iff {ps : List Piece} {cs : List Char} :
    ps.mapM Piece.char? = some cs ↔ ps = cs.map .char := by
  induction ps generalizing cs with
  | nil => cases cs <;> simp
  | cons p ps ih =>
    simp only [List.mapM_cons, Option.bind_eq_bind, Option.bind_eq_some_iff, ih, Option.pure_def,
      Option.some.injEq]
    constructor
    · rintro ⟨c, hp, ds, rfl, rfl⟩
      cases p with
      | char d =>
        cases hp
        rfl
      | broken _ | cut _ => cases hp
    · intro h
      obtain ⟨c, ds, rfl, rfl, rfl⟩ := List.map_eq_cons_iff.mp h.symm
      exact ⟨c, rfl, ds, rfl, rfl⟩

/-- A byte string reads as a text exactly if it is the encoding of it. -/
theorem decode?_eq_some_iff {bytes : List UInt8} {cs : List Char} :
    decode? bytes = some cs ↔ bytes = encode cs := by
  rw [decode?, mapM_char?_eq_some_iff]
  refine ⟨fun h => ?_, fun h => h ▸ pieces_encode cs⟩
  calc bytes = (pieces bytes).flatMap Piece.bytes := (flatMap_bytes_scan bytes).1.symm
    _ = encode cs := by rw [h, List.flatMap_map]; rfl

theorem toString?_eq_some_iff {bytes : List UInt8} {text : String} :
    toString? bytes = some text ↔ bytes = ofString text := by
  rw [toString?, Option.map_eq_some_iff]
  constructor
  · rintro ⟨cs, h, rfl⟩
    rw [ofString, String.toList_ofList, decode?_eq_some_iff.mp h]
  · exact fun h => ⟨text.toList, decode?_eq_some_iff.mpr h, String.ofList_toList⟩

end Utf8
end EditorSession
