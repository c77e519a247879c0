import EditorSession.Proofs.Text.Lines

/-! The count of units in a word, and the count without a bound.

`natOffset?` looks for a column as `byteOffset?` does, with a natural number for the counter, and
finds the beginning of the text with that many units. `Units.sums` are the sums that the search in
words makes, before they are cut to a word. None is more than one past the column, so one overflows
only at the greatest column, inside a surrogate pair (`Units.exists_overflow_iff`). The count begins
anew behind that pair (`byteOffset?_of_overflow`), and finds the column in the text that follows if
this is long enough. -/

namespace EditorSession

namespace Units

/-- Looks for `column` from a place `units` units and `offset` bytes into the text, with a counter
that has no bound. -/
def seekNat (column : Nat) : List Char → Nat → Nat → Option Nat
  | [], units, offset => if units = column then some offset else none
  | c :: cs, units, offset =>
    if units = column then some offset
    else if column < units then none
    else seekNat column cs (units + unitWidth c) (offset + c.utf8Size)

/-- The sums that the search for `column` makes from `units` on, before they are cut to a word. -/
def sums (column : UInt32) : List Char → UInt32 → List Nat
  | [], _ => []
  | c :: cs, units =>
    if units = column then []
    else if column < units then []
    else (units.toNat + unitWidth c) :: sums column cs (units + UInt32.ofNat (unitWidth c))

end Units

/-- The byte offset of the character that begins at `column`, or of the end of the text. The units
are counted without a bound. -/
def natOffset? (text : List Char) (column : Nat) : Option Nat := Units.seekNat column text 0 0

namespace Units

/-! ### The count without a bound -/

theorem seekNat_eq_some_iff {column units offset n : Nat} {cs : List Char} :
    seekNat column cs units offset = some n ↔
      ∃ a, a <+: cs ∧ units + unitLength a = column ∧ offset + byteLength a = n := by
  induction cs generalizing units offset with
  | nil => simp [seekNat, unitLength, byteLength]
  | cons c cs ih =>
    rw [seekNat]
    by_cases hu : units = column
    · rw [if_pos hu]
      constructor
      · rintro ⟨⟩
        exact ⟨[], List.nil_prefix, hu, rfl⟩
      · rintro ⟨a, -, ha, rfl⟩
        cases a with
        | nil => rfl
        | cons d ds =>
          have hd := unitWidth_eq d
          rw [unitLength] at ha
          omega
    rw [if_neg hu]
    by_cases hc : column < units
    · rw [if_pos hc]
      refine iff_of_false (Option.some_ne_none n).symm ?_
      rintro ⟨a, -, ha, -⟩
      omega
    rw [if_neg hc]
    refine ih.trans ?_
    constructor
    · rintro ⟨a, ha, hn, rfl⟩
      refine ⟨c :: a, List.cons_prefix_cons.mpr ⟨rfl, ha⟩, ?_, ?_⟩
      · rw [unitLength, ← Nat.add_assoc, hn]
      · rw [byteLength, Nat.add_assoc]
    · rintro ⟨a, ha, hn, rfl⟩
      cases a with
      | nil => exact (hu hn).elim
      | cons d ds =>
        obtain ⟨rfl, hds⟩ := List.cons_prefix_cons.mp ha
        refine ⟨ds, hds, ?_, ?_⟩
        · rw [← hn, unitLength, Nat.add_assoc]
        · rw [byteLength, Nat.add_assoc]

end Units

theorem natOffset?_eq_some_iff {text : List Char} {column n : Nat} :
    natOffset? text column = some n ↔
      ∃ a, a <+: text ∧ unitLength a = column ∧ byteLength a = n := by
  simp only [natOffset?, Units.seekNat_eq_some_iff, Nat.zero_add]

theorem natOffset?_eq_none_iff {text : List Char} {column : Nat} :
    natOffset? text column = none ↔ unitLength text < column ∨ Units.InsidePair text column := by
  rw [← Units.not_exists_prefix_iff, Option.eq_none_iff_forall_ne_some, not_exists]
  constructor
  · rintro hnone a ⟨ha, hu⟩
    exact hnone _ (natOffset?_eq_some_iff.mpr ⟨a, ha, hu, rfl⟩)
  · intro hnone n hn
    obtain ⟨a, ha, hu, -⟩ := natOffset?_eq_some_iff.mp hn
    exact hnone a ⟨ha, hu⟩

/-! ### Sums that overflow -/

namespace Units

variable {column units : UInt32} {cs : List Char}

theorem toNat_add_unitWidth {c : Char} (h : units.toNat + unitWidth c < UInt32.size) :
    (units + UInt32.ofNat (unitWidth c)).toNat = units.toNat + unitWidth c := by
  have hc : unitWidth c < UInt32.size := by omega
  rw [UInt32.toNat_add, UInt32.toNat_ofNat_of_lt' hc]
  exact Nat.mod_eq_of_lt h

theorem sums_cons_of_lt {c : Char} (h : units < column) :
    sums column (c :: cs) units =
      (units.toNat + unitWidth c) :: sums column cs (units + UInt32.ofNat (unitWidth c)) := by
  rw [sums, if_neg (UInt32.ne_of_lt h), if_neg (UInt32.lt_asymm h)]

theorem sums_cons_of_le {c : Char} (h : column ≤ units) : sums column (c :: cs) units = [] := by
  rw [sums]
  by_cases hu : units = column
  · rw [if_pos hu]
  · rw [if_neg hu, if_pos (UInt32.lt_of_le_of_ne h (Ne.symm hu))]

/-- The count goes on only below the column, by at most two. -/
theorem le_of_mem_sums {s : Nat} (h : s ∈ sums column cs units) : s ≤ column.toNat + 1 := by
  induction cs generalizing units with
  | nil => cases h
  | cons c cs ih =>
    by_cases hu : units < column
    · rw [sums_cons_of_lt hu] at h
      rcases List.mem_cons.mp h with rfl | hmem
      · have hlt := UInt32.lt_iff_toNat_lt.mp hu
        have hc := unitWidth_eq c
        omega
      · exact ih hmem
    · rw [sums_cons_of_le (UInt32.not_lt.mp hu)] at h
      cases h

theorem InsidePair.pos {n : Nat} (h : InsidePair cs n) : 0 < n := by
  obtain ⟨a, c, rest, -, -, rfl⟩ := h
  exact Nat.succ_pos _

theorem exists_overflow_iff_from :
    (∃ s ∈ sums column cs units, UInt32.size ≤ s) ↔
      column.toNat + 1 = UInt32.size ∧ ∃ n, InsidePair cs n ∧ units.toNat + n = column.toNat := by
  induction cs generalizing units with
  | nil => simp [sums, InsidePair]
  | cons c cs ih =>
    by_cases hu : units < column
    · have hlt := UInt32.lt_iff_toNat_lt.mp hu
      have hcolumn : column.toNat < UInt32.size := column.toNat_lt_size
      have hc := unitWidth_eq c
      simp only [sums_cons_of_lt hu, List.mem_cons, exists_eq_or_imp]
      by_cases hs : units.toNat + unitWidth c < UInt32.size
      · -- this sum fits, so the first to overflow is one of the sums after it
        rw [or_iff_right (Nat.not_le.mpr hs), ih, toNat_add_unitWidth hs]
        refine and_congr_right fun hmax => ?_
        constructor
        · rintro ⟨n, hn, heq⟩
          exact ⟨unitWidth c + n, insidePair_cons.mpr (.inr ⟨n, hn, rfl⟩), by omega⟩
        · rintro ⟨n, hn, heq⟩
          rcases insidePair_cons.mp hn with ⟨hpair, rfl⟩ | ⟨m, hm, rfl⟩
          · omega
          · exact ⟨m, hm, by omega⟩
      · refine iff_of_true (.inl (Nat.not_lt.mp hs)) ⟨by omega, 1, ?_, by omega⟩
        exact insidePair_cons.mpr (.inl ⟨by omega, rfl⟩)
    · have hle := UInt32.not_lt.mp hu
      rw [sums_cons_of_le hle]
      refine iff_of_false (by simp) ?_
      rintro ⟨-, n, hn, heq⟩
      have hpos := hn.pos
      have hle' := UInt32.le_iff_toNat_le.mp hle
      omega

/-- The count overflows exactly if the column is the greatest and inside a surrogate pair. -/
theorem exists_overflow_iff :
    (∃ s ∈ sums column cs 0, UInt32.size ≤ s) ↔
      column.toNat + 1 = UInt32.size ∧ InsidePair cs column.toNat := by
  simp [exists_overflow_iff_from]

theorem seek_eq_seekNat {offset : Nat} (h : ∀ s ∈ sums column cs units, s < UInt32.size) :
    seek column cs units offset = seekNat column.toNat cs units.toNat offset := by
  induction cs generalizing units offset with
  | nil => simp only [seek, seekNat, UInt32.toNat_inj]
  | cons c cs ih =>
    simp only [seek, seekNat, UInt32.toNat_inj, ← UInt32.lt_iff_toNat_lt]
    by_cases heq : units = column
    · rw [if_pos heq, if_pos heq]
    by_cases hlt : column < units
    · rw [if_neg heq, if_neg heq, if_pos hlt, if_pos hlt]
    have hu := UInt32.lt_of_le_of_ne (UInt32.not_lt.mp hlt) heq
    rw [sums_cons_of_lt hu, List.forall_mem_cons] at h
    obtain ⟨hs, hsums⟩ := h
    rw [if_neg heq, if_neg heq, if_neg hlt, if_neg hlt, ih hsums, toNat_add_unitWidth hs]

/-! ### The search after an overflow -/

theorem seek_eq_map (offset : Nat) :
    seek column cs units offset = (seek column cs units 0).map (offset + ·) := by
  ext n
  simp only [Option.map_eq_some_iff, seek_eq_some_iff, Nat.zero_add]
  constructor
  · rintro ⟨a, ha, hr, rfl⟩
    exact ⟨_, ⟨a, ha, hr, rfl⟩, rfl⟩
  · rintro ⟨_, ⟨a, ha, hr, rfl⟩, rfl⟩
    exact ⟨a, ha, hr, rfl⟩

theorem seek_cons_of_lt {c : Char} {offset : Nat} (h : units < column) :
    seek column (c :: cs) units offset =
      seek column cs (units + UInt32.ofNat (unitWidth c)) (offset + c.utf8Size) := by
  rw [seek, if_neg (UInt32.ne_of_lt h), if_neg (UInt32.lt_asymm h)]

theorem seek_of_overflow {a rest : List Char} {c : Char} {offset : Nat}
    (hmax : column.toNat + 1 = UInt32.size) (hc : unitWidth c = 2)
    (ha : units.toNat + unitLength a + 1 = column.toNat) :
    seek column (a ++ c :: rest) units offset =
      seek column rest 0 (offset + byteLength (a ++ [c])) := by
  have hu : units < column := UInt32.lt_iff_toNat_lt.mpr (by omega)
  induction a generalizing units offset with
  | nil =>
    rw [unitLength] at ha
    have hsize : units.toNat + (UInt32.ofNat 2).toNat = UInt32.size := by
      rw [UInt32.toNat_ofNat_of_lt' (by decide)]
      omega
    have hzero : units + UInt32.ofNat (unitWidth c) = 0 := by
      rw [← UInt32.toNat_inj, UInt32.toNat_add, hc, hsize]
      rfl
    rw [List.nil_append, seek_cons_of_lt hu, hzero]
    rfl
  | cons d ds ih =>
    rw [unitLength] at ha
    have hs : units.toNat + unitWidth d < UInt32.size := by omega
    have hadd := toNat_add_unitWidth hs
    rw [List.cons_append, seek_cons_of_lt hu,
      ih (by omega) (UInt32.lt_iff_toNat_lt.mpr (by omega)), List.cons_append, byteLength,
      Nat.add_assoc]

end Units

theorem byteOffset?_of_overflow {a rest : List Char} {c : Char} {column : UInt32}
    (hmax : column.toNat + 1 = UInt32.size) (hc : unitWidth c = 2)
    (ha : unitLength a + 1 = column.toNat) :
    byteOffset? (a ++ c :: rest) column =
      (byteOffset? rest column).map (byteLength (a ++ [c]) + ·) := by
  have hcount : (0 : UInt32).toNat + unitLength a + 1 = column.toNat := by simpa using ha
  rw [byteOffset?, Units.seek_of_overflow hmax hc hcount, Nat.zero_add, Units.seek_eq_map,
    byteOffset?]

theorem byteOffset?_ne_natOffset?_iff {text : List Char} {column : UInt32} :
    byteOffset? text column ≠ natOffset? text column.toNat ↔
      column.toNat + 1 = UInt32.size ∧ ∃ a c rest n, text = a ++ c :: rest ∧ unitWidth c = 2 ∧
        unitLength a + 1 = column.toNat ∧ byteOffset? rest column = some n := by
  constructor
  · intro hne
    have hsums : ¬∀ s ∈ Units.sums column text 0, s < UInt32.size := fun h =>
      hne (Units.seek_eq_seekNat h)
    have hover : ∃ s ∈ Units.sums column text 0, UInt32.size ≤ s := by simpa using hsums
    obtain ⟨hmax, hpair⟩ := Units.exists_overflow_iff.mp hover
    have hnone := natOffset?_eq_none_iff.mpr (.inr hpair)
    obtain ⟨a, c, rest, rfl, hc, ha⟩ := hpair
    rw [hnone, byteOffset?_of_overflow hmax hc ha] at hne
    obtain ⟨_, hmap⟩ := Option.ne_none_iff_exists'.mp hne
    obtain ⟨n, hn, -⟩ := Option.map_eq_some_iff.mp hmap
    exact ⟨hmax, a, c, rest, n, rfl, hc, ha, hn⟩
  · rintro ⟨hmax, a, c, rest, n, rfl, hc, ha, hn⟩
    have hpair : Units.InsidePair (a ++ c :: rest) column.toNat := ⟨a, c, rest, rfl, hc, ha⟩
    rw [natOffset?_eq_none_iff.mpr (.inr hpair), byteOffset?_of_overflow hmax hc ha, hn]
    exact Option.some_ne_none _

theorem le_unitLength_of_byteOffset? {text : List Char} {column : UInt32} {n : Nat}
    (h : byteOffset? text column = some n) : column.toNat ≤ unitLength text := by
  obtain ⟨a, ⟨rest, rfl⟩, ⟨hcolumn, -⟩, -⟩ := byteOffset?_eq_some_iff.mp h
  rw [← hcolumn, UInt32.zero_add, unitLength_append]
  exact Nat.le_trans (Nat.mod_le _ _) (Nat.le_add_right _ _)

/-- A text has to be about twice as long as a word can count for an overflow to show. -/
theorem byteOffset?_eq_natOffset?_of_unitLength_lt {text : List Char} {column : UInt32}
    (h : unitLength text + 1 < 2 * UInt32.size) :
    byteOffset? text column = natOffset? text column.toNat := by
  refine Classical.byContradiction fun hne => ?_
  obtain ⟨hmax, a, c, rest, n, rfl, hc, ha, hn⟩ := byteOffset?_ne_natOffset?_iff.mp hne
  have hrest := le_unitLength_of_byteOffset? hn
  rw [unitLength_append, unitLength] at h
  omega

theorem unitLength_replicate (n : Nat) (c : Char) :
    unitLength (List.replicate n c) = n * unitWidth c := by
  induction n with
  | zero => rw [Nat.zero_mul]; rfl
  | succ n ih => rw [List.replicate_succ, unitLength, ih, Nat.succ_mul, Nat.add_comm]

theorem byteLength_replicate (n : Nat) (c : Char) :
    byteLength (List.replicate n c) = n * c.utf8Size := by
  induction n with
  | zero => rw [Nat.zero_mul]; rfl
  | succ n ih => rw [List.replicate_succ, byteLength, ih, Nat.succ_mul, Nat.add_comm]

/-- The sums of a search stay at most one past the column. They fit into a word unless the column is
the greatest and inside a surrogate pair. Even then the search finds what the one without a bound
does, which is nothing, unless the text behind the pair has the column again. -/
theorem byteOffset?_overflow_iff (text : List Char) (column : UInt32) :
    (∀ s ∈ Units.sums column text 0, s ≤ column.toNat + 1) ∧
    ((∀ s ∈ Units.sums column text 0, s < UInt32.size) ↔
      ¬(column.toNat + 1 = UInt32.size ∧ Units.InsidePair text column.toNat)) ∧
    (byteOffset? text column = natOffset? text column.toNat ↔
      ¬(column.toNat + 1 = UInt32.size ∧ ∃ a c rest n, text = a ++ c :: rest ∧ unitWidth c = 2 ∧
        unitLength a + 1 = column.toNat ∧ byteOffset? rest column = some n)) := by
  refine ⟨fun s => Units.le_of_mem_sums, ?_, ?_⟩
  · rw [← Units.exists_overflow_iff]
    simp only [not_exists, not_and, Nat.not_le]
  · rw [← byteOffset?_ne_natOffset?_iff, Classical.not_not]

/-- The greatest column is inside the pair of this text. The count is zero behind the pair, and at
the end of the text it is at the column. -/
theorem byteOffset?_ne_natOffset?_of_long :
    let text := List.replicate 4294967294 'a' ++ '𝄞' :: List.replicate 4294967295 'a'
    (∃ s ∈ Units.sums 4294967295 text 0, ¬s < UInt32.size) ∧
      byteOffset? text 4294967295 = some 8589934593 ∧ natOffset? text 4294967295 = none := by
  intro text
  have hmax : (4294967295 : UInt32).toNat + 1 = UInt32.size := rfl
  have hunits (n : Nat) : unitLength (List.replicate n 'a') = n := by
    rw [unitLength_replicate]
    exact Nat.mul_one n
  have hbytes (n : Nat) : byteLength (List.replicate n 'a') = n := by
    rw [byteLength_replicate]
    exact Nat.mul_one n
  have hbegin : unitLength (List.replicate 4294967294 'a') + 1 = (4294967295 : UInt32).toNat := by
    rw [hunits]
    rfl
  have hpair : Units.InsidePair text 4294967295 := ⟨_, '𝄞', _, rfl, rfl, hbegin⟩
  have hrest : byteOffset? (List.replicate 4294967295 'a') 4294967295 = some 4294967295 := by
    refine byteOffset?_eq_some_iff.mpr ⟨_, List.prefix_refl _, ?_, hbytes _⟩
    rw [Units.reaches_iff] <;> rw [hunits]
    · rfl
    · decide
  refine ⟨?_, ?_, natOffset?_eq_none_iff.mpr (.inr hpair)⟩
  · simp only [Nat.not_lt]
    exact Units.exists_overflow_iff.mpr ⟨hmax, hpair⟩
  · rw [byteOffset?_of_overflow hmax rfl hbegin, hrest, byteLength_append, hbytes]
    rfl

end EditorSession
