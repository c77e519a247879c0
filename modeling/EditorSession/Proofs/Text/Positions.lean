import EditorSession.Proofs.Text.Index

/-! Positions of a text, and the text between two of them.

`Units.Reaches` reads a column as the text before it, and `Content.IsPosition` is a line and a
column that it has. These are the positions with an offset (`Content.offset_eq_ok_iff`), an offset is
a place between two characters, and offsets keep the order of positions. So there is text from one
position to another exactly if the second does not precede the first
(`Content.exists_sub_eq_ok_iff`): no offset falls inside a character. -/

namespace EditorSession

theorem unitLength_take_lt {a : List Char} {n : Nat} (h : n < a.length) :
    unitLength (a.take n) < unitLength a := by
  have hdrop : 0 < unitLength (a.drop n) := by
    rw [List.drop_eq_getElem_cons h, unitLength]
    have hc : 0 < unitWidth a[n] := by
      unfold unitWidth
      split <;> decide
    omega
  calc unitLength (a.take n) < unitLength (a.take n) + unitLength (a.drop n) := by omega
    _ = unitLength a := by rw [← unitLength_append, List.take_append_drop]

/-! ### Columns -/

namespace Units

/-- The text `a` ends at a column: its units are counted in a word, from `units` on, and no shorter
beginning of it has as many as the column. -/
def Reaches (column units : UInt32) (a : List Char) : Prop :=
  units + UInt32.ofNat (unitLength a) = column ∧
    ∀ n < a.length, units + UInt32.ofNat (unitLength (a.take n)) < column

/-- Without an overflow of the count, a text ends at the column that is its length. -/
theorem reaches_iff {column : UInt32} {a : List Char} (h : unitLength a < UInt32.size) :
    Reaches column 0 a ↔ unitLength a = column.toNat := by
  have heq : UInt32.ofNat (unitLength a) = column ↔ unitLength a = column.toNat := by
    rw [← UInt32.toNat_inj, UInt32.toNat_ofNat_of_lt' h]
  simp only [Reaches, UInt32.zero_add]
  refine ⟨fun hr => heq.mp hr.1, fun hl => ⟨heq.mpr hl, fun n hn => ?_⟩⟩
  have hlt := unitLength_take_lt hn
  rw [UInt32.lt_iff_toNat_lt, UInt32.toNat_ofNat_of_lt' (Nat.lt_trans hlt h)]
  omega

theorem reaches_iff_of_prefix {column : UInt32} {text a : List Char} (ha : a <+: text)
    (h : unitLength text < UInt32.size) : Reaches column 0 a ↔ unitLength a = column.toNat := by
  refine reaches_iff (Nat.lt_of_le_of_lt ?_ h)
  obtain ⟨rest, rfl⟩ := ha
  rw [unitLength_append]
  exact Nat.le_add_right _ _

theorem reaches_nil {column units : UInt32} : Reaches column units [] ↔ units = column := by
  have hzero : units + UInt32.ofNat (unitLength []) = units := UInt32.add_zero units
  rw [Reaches, hzero]
  exact ⟨fun h => h.1, fun h => ⟨h, nofun⟩⟩

theorem reaches_cons {column units : UInt32} {c : Char} {a : List Char} :
    Reaches column units (c :: a) ↔
      units < column ∧ Reaches column (units + UInt32.ofNat (unitWidth c)) a := by
  have hzero : units + UInt32.ofNat (unitLength []) = units := UInt32.add_zero units
  have hstep (b : List Char) : units + UInt32.ofNat (unitLength (c :: b)) =
      units + UInt32.ofNat (unitWidth c) + UInt32.ofNat (unitLength b) := by
    rw [unitLength, UInt32.ofNat_add, UInt32.add_assoc]
  unfold Reaches
  rw [hstep]
  constructor
  · rintro ⟨heq, hlt⟩
    refine ⟨?_, heq, fun n hn => ?_⟩
    · have h0 := hlt 0 (Nat.zero_lt_succ _)
      rwa [List.take_zero, hzero] at h0
    · have hn' := hlt (n + 1) (Nat.succ_lt_succ hn)
      rwa [List.take_succ_cons, hstep] at hn'
  · rintro ⟨hu, heq, hlt⟩
    refine ⟨heq, fun n hn => ?_⟩
    cases n with
    | zero => rwa [List.take_zero, hzero]
    | succ n =>
      rw [List.take_succ_cons, hstep]
      exact hlt n (Nat.lt_of_succ_lt_succ hn)

theorem seek_eq_some_iff {column units : UInt32} {cs : List Char} {offset n : Nat} :
    seek column cs units offset = some n ↔
      ∃ a, a <+: cs ∧ Reaches column units a ∧ offset + byteLength a = n := by
  induction cs generalizing units offset with
  | nil =>
    rw [seek]
    constructor
    · intro h
      split at h
      · next hu =>
        cases h
        exact ⟨[], List.nil_prefix, reaches_nil.mpr hu, rfl⟩
      · cases h
    · rintro ⟨a, ha, hr, rfl⟩
      cases List.prefix_nil.mp ha
      rw [if_pos (reaches_nil.mp hr)]
      rfl
  | cons c cs ih =>
    rw [seek]
    by_cases hu : units = column
    · rw [if_pos hu]
      constructor
      · rintro ⟨⟩
        exact ⟨[], List.nil_prefix, reaches_nil.mpr hu, rfl⟩
      · rintro ⟨a, -, hr, rfl⟩
        cases a with
        | nil => rfl
        | cons d ds => exact (UInt32.lt_irrefl _ (hu ▸ (reaches_cons.mp hr).1)).elim
    rw [if_neg hu]
    by_cases hc : column < units
    · rw [if_pos hc]
      refine ⟨nofun, ?_⟩
      rintro ⟨a, -, hr, -⟩
      cases a with
      | nil => exact (hu (reaches_nil.mp hr)).elim
      | cons d ds => exact (UInt32.lt_asymm hc (reaches_cons.mp hr).1).elim
    rw [if_neg hc]
    refine ih.trans ?_
    constructor
    · rintro ⟨a, ha, hr, rfl⟩
      have hlt : units < column := UInt32.lt_of_le_of_ne (UInt32.not_lt.mp hc) hu
      refine ⟨c :: a, List.cons_prefix_cons.mpr ⟨rfl, ha⟩, reaches_cons.mpr ⟨hlt, hr⟩, ?_⟩
      rw [byteLength, Nat.add_assoc]
    · rintro ⟨a, ha, hr, rfl⟩
      cases a with
      | nil => exact (hu (reaches_nil.mp hr)).elim
      | cons d ds =>
        obtain ⟨rfl, hds⟩ := List.cons_prefix_cons.mp ha
        refine ⟨ds, hds, (reaches_cons.mp hr).2, ?_⟩
        rw [byteLength, Nat.add_assoc]

/-- Columns are in the order of the texts before them. -/
theorem Reaches.prefix_of_le {column column' units : UInt32} {text a b : List Char}
    (ha : Reaches column units a) (hb : Reaches column' units b) (hat : a <+: text)
    (hbt : b <+: text) (h : column ≤ column') : a <+: b := by
  rcases List.prefix_or_prefix_of_prefix hat hbt with hab | hba
  · exact hab
  · obtain ⟨t, rfl⟩ := hba
    cases t with
    | nil => simp
    | cons c t =>
      have hlt := ha.2 b.length (by simp)
      rw [List.take_left, hb.1] at hlt
      exact (UInt32.not_lt.mpr h hlt).elim

end Units

theorem byteOffset?_eq_some_iff {text : List Char} {column : UInt32} {n : Nat} :
    byteOffset? text column = some n ↔
      ∃ a, a <+: text ∧ Units.Reaches column 0 a ∧ byteLength a = n := by
  simp only [byteOffset?, Units.seek_eq_some_iff, Nat.zero_add]

namespace Content

/-! ### Positions -/

/-- The text has the line, and the line has the column. -/
def IsPosition (c : Content) (p : Position) : Prop :=
  ∃ line a, c.lineChars p.line = .ok line ∧ a <+: line ∧ Units.Reaches p.character 0 a

/-- In lines that are not too long for the count, a position is a number of units at the beginning
of a line, in whole characters. -/
theorem isPosition_iff {c : Content} {p : Position}
    (h : ∀ line, c.lineChars p.line = .ok line → unitLength line < UInt32.size) :
    c.IsPosition p ↔ ∃ line a, c.lineChars p.line = .ok line ∧ a <+: line ∧
      unitLength a = p.character.toNat := by
  have hreach {line a : List Char} (hl : c.lineChars p.line = .ok line) (ha : a <+: line) :
      Units.Reaches p.character 0 a ↔ unitLength a = p.character.toNat :=
    Units.reaches_iff_of_prefix ha (h line hl)
  constructor
  · rintro ⟨line, a, hl, ha, hr⟩
    exact ⟨line, a, hl, ha, (hreach hl ha).mp hr⟩
  · rintro ⟨line, a, hl, ha, hu⟩
    exact ⟨line, a, hl, ha, (hreach hl ha).mpr hu⟩

theorem offset_eq_ok_iff {c : Content} {p : Position} {n : Nat} :
    c.offset p = .ok n ↔ ∃ line a, c.lineChars p.line = .ok line ∧ a <+: line ∧
      Units.Reaches p.character 0 a ∧ byteLength (c.before p.line.toNat ++ a) = n := by
  rw [offset_eq]
  cases hl : c.lineChars p.line with
  | error cause =>
    refine ⟨nofun, ?_⟩
    rintro ⟨line, a, hline, -⟩
    cases hline
  | ok line =>
    simp only [Except.bind]
    constructor
    · intro h
      cases ho : byteOffset? line p.character with
      | none =>
        rw [ho] at h
        cases h
      | some offset =>
        rw [ho] at h
        cases h
        obtain ⟨a, ha, hr, rfl⟩ := byteOffset?_eq_some_iff.mp ho
        exact ⟨line, a, rfl, ha, hr, byteLength_append ..⟩
    · rintro ⟨line, a, hline, ha, hr, rfl⟩
      cases hline
      rw [byteOffset?_eq_some_iff.mpr ⟨a, ha, hr, rfl⟩, byteLength_append]
      rfl

theorem isPosition_of_offset {c : Content} {p : Position} {n : Nat} (h : c.offset p = .ok n) :
    c.IsPosition p := by
  obtain ⟨line, a, hl, ha, hr, -⟩ := offset_eq_ok_iff.mp h
  exact ⟨line, a, hl, ha, hr⟩

theorem before_append_isPrefix_chars {c : Content} {n : UInt32} {line a : List Char}
    (hl : c.lineChars n = .ok line) (ha : a <+: line) : c.before n.toNat ++ a <+: c.chars := by
  obtain ⟨piece, hp, rfl⟩ := lineChars_eq_ok_iff.mp hl
  have hpiece : a <+: piece := ha.trans (withoutReturn_isPrefix piece)
  exact ((List.prefix_append_right_inj _).mpr hpiece).trans (before_append_isPrefix hp)

/-- Positions are in the order of the texts before them. -/
theorem before_append_isPrefix_of_not_precedes {c : Content} {start stop : Position}
    {line line' a b : List Char} (h : stop.precedes start = false)
    (hl : c.lineChars start.line = .ok line) (hl' : c.lineChars stop.line = .ok line')
    (ha : a <+: line) (hb : b <+: line') (hra : Units.Reaches start.character 0 a)
    (hrb : Units.Reaches stop.character 0 b) :
    c.before start.line.toNat ++ a <+: c.before stop.line.toNat ++ b := by
  have hle : ¬(stop.line < start.line ∨
      stop.line = start.line ∧ stop.character < start.character) := fun hp => by
    rw [Position.precedes_iff.mpr hp] at h
    cases h
  rw [not_or, not_and] at hle
  by_cases heq : stop.line = start.line
  · rw [heq] at hl' ⊢
    cases hl.symm.trans hl'
    have hcolumn : start.character ≤ stop.character := UInt32.not_lt.mp (hle.2 heq)
    exact (List.prefix_append_right_inj _).mpr (hra.prefix_of_le hrb ha hb hcolumn)
  · have hlt : start.line.toNat < stop.line.toNat :=
      UInt32.lt_iff_toNat_lt.mp (UInt32.lt_of_le_of_ne (UInt32.not_lt.mp hle.1) (Ne.symm heq))
    obtain ⟨piece, hp, rfl⟩ := lineChars_eq_ok_iff.mp hl
    have hpiece : a <+: piece ++ ['\n'] :=
      (ha.trans (withoutReturn_isPrefix piece)).trans (List.prefix_append _ _)
    have hnext : c.before start.line.toNat ++ a <+: c.before (start.line.toNat + 1) := by
      rw [before_succ hp]
      exact (List.prefix_append_right_inj _).mpr hpiece
    exact (hnext.trans (c.before_isPrefix hlt)).trans (List.prefix_append _ _)

theorem exists_sub_eq_ok_iff {c : Content} {start stop : Position} :
    (∃ part, c.sub start stop = .ok part) ↔
      stop.precedes start = false ∧ c.IsPosition start ∧ c.IsPosition stop := by
  unfold sub
  cases h : stop.precedes start with
  | true => simp
  | false =>
    rw [if_neg Bool.false_ne_true]
    constructor
    · rintro ⟨part, hpart⟩
      cases hm : c.offset start with
      | error cause =>
        rw [hm] at hpart
        cases hpart
      | ok m =>
        cases hn : c.offset stop with
        | error cause =>
          rw [hm, hn] at hpart
          cases hpart
        | ok n => exact ⟨rfl, isPosition_of_offset hm, isPosition_of_offset hn⟩
    · rintro ⟨-, ⟨line, a, hl, ha, hra⟩, ⟨line', b, hl', hb, hrb⟩⟩
      have hm := offset_eq_ok_iff.mpr ⟨line, a, hl, ha, hra, rfl⟩
      have hn := offset_eq_ok_iff.mpr ⟨line', b, hl', hb, hrb, rfl⟩
      have hle := byteLength_le_of_prefix
        (before_append_isPrefix_of_not_precedes h hl hl' ha hb hra hrb)
      obtain ⟨part, hpart⟩ := exists_slice?_eq_some (before_append_isPrefix_chars hl ha)
        (before_append_isPrefix_chars hl' hb) hle
      refine ⟨String.ofList part, ?_⟩
      simp only [hm, hn, bind, Except.bind, slice_eq_ok_iff.mpr hpart]

end Content

end EditorSession
