import EditorSession.Proofs.Text.Parts
import Mathlib.Logic.ExistsUnique

/-! The places of a text that positions address.

Every place between two characters is in a piece of the text (`exists_isPiece`), at a line and a
column that can be counted if the text is not too long. The position is there unless the place is
past the end of the line, behind the `\r` that is dropped (`Content.exists_reaches_iff`). A `\r` is
dropped before a line feed, and at the end of the text too. -/

namespace EditorSession

/-! ### Lengths -/

theorem length_le_unitLength (cs : List Char) : cs.length ≤ unitLength cs := by
  induction cs with
  | nil => exact Nat.le_refl 0
  | cons c cs ih =>
    have hc := Units.unitWidth_eq c
    rw [List.length_cons, unitLength]
    omega

theorem unitLength_le_byteLength (cs : List Char) : unitLength cs ≤ byteLength cs := by
  induction cs with
  | nil => exact Nat.le_refl 0
  | cons c cs ih =>
    have hc : unitWidth c ≤ c.utf8Size := by
      unfold unitWidth Char.utf8Size
      simp only [UInt32.le_iff_toNat_le]
      split <;> split <;> grind
    rw [unitLength, byteLength]
    omega

/-! ### The piece around a place -/

theorem exists_eq_append_last_line (a : List Char) :
    ∃ before column, a = before ++ column ∧ (before = [] ∨ before.getLast? = some '\n') ∧
      '\n' ∉ column := by
  by_cases h : '\n' ∈ a
  · obtain ⟨column, before, hrev, hnone⟩ := List.eq_append_cons_of_mem (List.mem_reverse.mpr h)
    refine ⟨before.reverse ++ ['\n'], column.reverse, ?_, .inr (by simp), by simpa using hnone⟩
    rw [← List.reverse_reverse a, hrev]
    simp
  · exact ⟨[], a, rfl, .inl rfl, h⟩

theorem exists_eq_append_first_line (b : List Char) :
    ∃ column rest, b = column ++ rest ∧ '\n' ∉ column ∧ (rest = [] ∨ rest.head? = some '\n') := by
  by_cases h : '\n' ∈ b
  · obtain ⟨column, rest, rfl, hnone⟩ := List.eq_append_cons_of_mem h
    exact ⟨column, '\n' :: rest, rfl, hnone, .inr rfl⟩
  · exact ⟨b, [], by simp, h, .inl rfl⟩

/-- Every place in a text is in a piece of it, at the end of the piece if nothing or a line feed
follows. -/
theorem exists_isPiece {text a b : List Char} (h : text = a ++ b) :
    ∃ before column rest, a = before ++ column ∧ (before = [] ∨ before.getLast? = some '\n') ∧
      IsPiece text (a.count '\n') before (column ++ rest) ∧
      (rest = [] ↔ b = [] ∨ b.head? = some '\n') := by
  obtain ⟨before, column, rfl, hbegins, hcolumn⟩ := exists_eq_append_last_line a
  obtain ⟨rest, tail, rfl, hrest, htail⟩ := exists_eq_append_first_line b
  refine ⟨before, column, rest, rfl, hbegins, ⟨?_, hbegins, ?_, ?_⟩, ?_⟩
  · exact ⟨tail, by simp [h], htail⟩
  · rw [List.count_append, List.count_eq_zero.mpr hcolumn, Nat.add_zero]
  · simp [hcolumn, hrest]
  · cases rest with
    | nil => simpa using htail
    | cons d rest =>
      have hd : d ≠ '\n' := fun hd => hrest (hd ▸ List.mem_cons_self)
      simp [hd]

theorem getLast?_append_eq_return_iff {before column : List Char}
    (h : before = [] ∨ before.getLast? = some '\n') :
    (before ++ column).getLast? = some '\r' ↔ column.getLast? = some '\r' := by
  rcases h with rfl | h
  · rw [List.nil_append]
  · rw [List.getLast?_append, h]
    cases column.getLast? <;> simp

/-- A beginning of a piece is one of the line, unless it ends in the `\r` that is dropped. -/
theorem isPrefix_withoutReturn_iff {column rest : List Char} :
    column <+: withoutReturn (column ++ rest) ↔ ¬(column.getLast? = some '\r' ∧ rest = []) := by
  unfold withoutReturn
  by_cases hrest : rest = []
  · subst hrest
    rw [List.append_nil]
    split
    · next hlast =>
      obtain ⟨front, rfl⟩ := List.getLast?_eq_some_iff.mp hlast
      simp only [List.dropLast_concat, hlast, and_self, not_true_eq_false, iff_false]
      intro h
      exact absurd h.length_le (by simp)
    · next hlast => simp [hlast]
  · rw [List.dropLast_append_of_ne_nil hrest]
    simp only [hrest, and_false, not_false_eq_true, iff_true]
    split <;> exact List.prefix_append _ _

namespace Content

variable {c : Content} {a b : List Char}

/-- No place has two positions. -/
theorem existsUnique_reaches_iff : (∃! p, c.Reaches p a) ↔ ∃ p, c.Reaches p a :=
  ⟨ExistsUnique.exists, fun ⟨p, hp⟩ => ⟨p, hp, fun _ hq => hq.position_unique hp⟩⟩

theorem exists_reaches_iff_of_isPiece {before column rest : List Char}
    (hc : unitLength c.chars < UInt32.size) (ha : before ++ column <+: c.chars)
    (hpiece : IsPiece c.chars ((before ++ column).count '\n') before (column ++ rest)) :
    (∃ p, c.Reaches p (before ++ column)) ↔ column <+: withoutReturn (column ++ rest) := by
  obtain ⟨hmem, hbefore⟩ := pieces_of_isPiece hpiece
  constructor
  · rintro ⟨p, hp⟩
    rw [hp.count_newline] at hmem hbefore
    obtain ⟨line, column', hl, hcolumn, -, heq⟩ := hp
    obtain ⟨piece, hpiece', rfl⟩ := lineChars_eq_ok_iff.mp hl
    cases hmem.symm.trans hpiece'
    rw [hbefore] at heq
    rwa [List.append_cancel_left heq] at hcolumn
  · intro hline
    -- no count of a part of the text overflows
    have hshort : unitLength (before ++ column) < UInt32.size := by
      obtain ⟨t, ht⟩ := ha
      rw [← ht, unitLength_append] at hc
      omega
    have hcolumn : unitLength column < UInt32.size := by
      rw [unitLength_append] at hshort
      omega
    have hlines : (before ++ column).count '\n' < UInt32.size :=
      Nat.lt_of_le_of_lt (Nat.le_trans List.count_le_length (length_le_unitLength _)) hshort
    have hn := UInt32.toNat_ofNat_of_lt' hlines
    refine ⟨⟨UInt32.ofNat ((before ++ column).count '\n'), UInt32.ofNat (unitLength column)⟩,
      withoutReturn (column ++ rest), column, ?_, hline, ?_, ?_⟩
    · rw [lineChars_eq_ok_iff, hn]
      exact ⟨_, hmem, rfl⟩
    · rw [Units.reaches_iff hcolumn, UInt32.toNat_ofNat_of_lt' hcolumn]
    · rw [hn, hbefore]

/-- A place has a position unless it is behind a `\r` that a line feed or nothing follows. -/
theorem exists_reaches_iff (hc : unitLength c.chars < UInt32.size) (htext : c.chars = a ++ b) :
    (∃ p, c.Reaches p a) ↔ ¬(a.getLast? = some '\r' ∧ (b = [] ∨ b.head? = some '\n')) := by
  obtain ⟨before, column, rest, rfl, hbegins, hpiece, hrest⟩ := exists_isPiece htext
  rw [exists_reaches_iff_of_isPiece hc ⟨b, htext.symm⟩ hpiece, isPrefix_withoutReturn_iff,
    getLast?_append_eq_return_iff hbegins, hrest]

theorem reaches_origin (c : Content) : c.Reaches ⟨0, 0⟩ [] := by
  obtain ⟨first, rest, hpieces⟩ :=
    List.exists_cons_of_ne_nil (List.splitOn_ne_nil '\n' c.chars)
  have hl : c.lineChars 0 = .ok (withoutReturn first) :=
    lineChars_eq_ok_iff.mpr ⟨first, by rw [pieces, hpieces]; rfl, rfl⟩
  exact ⟨_, [], hl, List.nil_prefix, Units.reaches_nil.mpr rfl, rfl⟩

theorem sub_origin_eq_text_iff {p : Position} :
    c.sub ⟨0, 0⟩ p = .ok c.text ↔ c.Reaches p c.chars := by
  rw [sub_eq_ok_iff]
  constructor
  · rintro ⟨a, horigin, hp⟩
    rwa [horigin.text_unique c.reaches_origin] at hp
  · exact fun hp => ⟨[], c.reaches_origin, hp⟩

theorem offset_eq_utf8ByteSize_iff {p : Position} {s : String} (hs : s.toList <+: c.chars) :
    c.offset p = .ok s.utf8ByteSize ↔ c.Reaches p s.toList := by
  rw [offset_eq_ok_iff_reaches, ← byteLength_toList]
  constructor
  · rintro ⟨a, hp, ha⟩
    rwa [eq_of_byteLength_eq hp.isPrefix hs ha] at hp
  · exact fun hp => ⟨_, hp, rfl⟩

/-- A place in a text of less than 2^32 bytes has one position, unless it is behind a `\r` that a
line feed or nothing follows, and then it has none. So there is a position at the end exactly if the
text does not end in `\r`. -/
theorem addressable_iff (h : c.text.utf8ByteSize < UInt32.size) :
    (∀ s t, c.text = s ++ t → ((∃! p, c.offset p = .ok s.utf8ByteSize) ↔
      ¬(s.toList.getLast? = some '\r' ∧ (t = "" ∨ t.toList.head? = some '\n')))) ∧
    ((∃ p, c.sub ⟨0, 0⟩ p = .ok c.text) ↔ c.text.toList.getLast? ≠ some '\r') := by
  have hc : unitLength c.chars < UInt32.size := by
    rw [← byteLength_toList] at h
    exact Nat.lt_of_le_of_lt (unitLength_le_byteLength _) h
  constructor
  · intro s t htext
    have hchars : c.chars = s.toList ++ t.toList := by rw [chars, htext, String.toList_append]
    simp only [offset_eq_utf8ByteSize_iff ⟨_, hchars.symm⟩, existsUnique_reaches_iff]
    rw [exists_reaches_iff hc hchars, String.toList_eq_nil_iff]
  · simp only [sub_origin_eq_text_iff]
    rw [exists_reaches_iff hc (List.append_nil _).symm]
    simp [chars]

/-- Of two `\r` in front of a line feed the first is text, and a position is behind it. -/
theorem addressable_iff_returns :
    let c : Content := ⟨"é\r\r\n𝄞"⟩
    c.text.utf8ByteSize < UInt32.size ∧ (∃! p, c.offset p = .ok 3) ∧
      (¬∃! p, c.offset p = .ok 4) ∧ (∃! p, c.offset p = .ok 5) ∧
      ∃ p, c.sub ⟨0, 0⟩ p = .ok c.text := by
  intro c
  have hsize : c.text.utf8ByteSize < UInt32.size := by decide
  obtain ⟨hplace, hwhole⟩ := addressable_iff hsize
  refine ⟨hsize, (hplace "é\r" "\r\n𝄞" rfl).mpr (by decide), ?_,
    (hplace "é\r\r\n" "𝄞" rfl).mpr (by decide), hwhole.mpr (by decide)⟩
  exact fun h => (hplace "é\r\r" "\n𝄞" rfl).mp h (by decide)

/-- A `\r` at the end of the text ends no line, and yet no position is behind it. -/
theorem not_addressable_final_return :
    let c : Content := ⟨"a\r"⟩
    c.text.utf8ByteSize < UInt32.size ∧ c.text = "a\r" ++ "" ∧
      (∀ p, c.offset p ≠ .ok "a\r".utf8ByteSize) ∧ ∀ p, c.sub ⟨0, 0⟩ p ≠ .ok c.text := by
  intro c
  have hnone : ¬∃ p, c.Reaches p c.chars := by
    rw [exists_reaches_iff (by decide) (List.append_nil _).symm]
    decide
  refine ⟨by decide, by decide, fun p hp => hnone ?_, fun p hp => hnone ?_⟩
  · exact ⟨p, (offset_eq_utf8ByteSize_iff (List.prefix_refl _)).mp hp⟩
  · exact ⟨p, sub_origin_eq_text_iff.mp hp⟩

end Content

end EditorSession
