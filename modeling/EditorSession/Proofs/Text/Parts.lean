import EditorSession.Proofs.Text.Lines

/-! The text before a position, and the text between two positions.

`Content.Reaches` reads a position as the beginning of the text that ends there. A position has one
such beginning, no two positions have the same one, since its line feeds count the line, and a later
position has a longer one. The text between two positions is what the second beginning has more than
the first (`Content.sub_eq_ok_iff`), so parts that meet add up. -/

namespace EditorSession

theorem Position.precedes_asymm {p q : Position} (h : p.precedes q = true) :
    q.precedes p = false := by
  rw [Bool.eq_false_iff]
  intro h'
  rw [precedes_iff] at h h'
  simp only [UInt32.lt_iff_toNat_lt, ← UInt32.toNat_inj] at h h'
  omega

theorem Position.precedes_irrefl (p : Position) : p.precedes p = false := by
  simp [precedes]

namespace Units

/-- A column is reached at one place. -/
theorem Reaches.text_unique {column units : UInt32} {text a b : List Char}
    (ha : Reaches column units a) (hb : Reaches column units b) (hat : a <+: text)
    (hbt : b <+: text) : a = b := by
  have hab := ha.prefix_of_le hb hat hbt (UInt32.le_refl column)
  have hba := hb.prefix_of_le ha hbt hat (UInt32.le_refl column)
  exact hab.eq_of_length_le hba.length_le

end Units

theorem slice?_toList_eq_some_iff {text part : String} {m n : Nat} :
    slice? text.toList m n = some part.toList ↔
      ∃ s t, text = s ++ part ++ t ∧ s.utf8ByteSize = m ∧ (s ++ part).utf8ByteSize = n := by
  rw [slice?_eq_some_iff]
  constructor
  · rintro ⟨a, b, htext, rfl, rfl⟩
    refine ⟨String.ofList a, String.ofList b, ?_, utf8ByteSize_ofList a, ?_⟩
    · rw [← String.toList_inj, htext]
      simp
    · rw [← byteLength_toList]
      simp
  · rintro ⟨s, t, rfl, rfl, rfl⟩
    refine ⟨s.toList, t.toList, by simp, byteLength_toList s, ?_⟩
    rw [← String.toList_append, byteLength_toList]

/-! ### The text before a position -/

namespace Content

variable {c : Content} {p q : Position} {a b : List Char}

theorem newline_not_mem_of_lineChars {n : UInt32} {line column : List Char}
    (hl : c.lineChars n = .ok line) (hc : column <+: line) : '\n' ∉ column := by
  obtain ⟨piece, hmem, rfl⟩ := lineChars_eq_ok_iff.mp hl
  have hpiece := hc.trans (withoutReturn_isPrefix piece)
  exact fun h => (isPiece_of_pieces hmem).newline_not_mem (hpiece.mem h)

/-- The beginning `a` of the text ends at the position. -/
def Reaches (c : Content) (p : Position) (a : List Char) : Prop :=
  ∃ line column, c.lineChars p.line = .ok line ∧ column <+: line ∧
    Units.Reaches p.character 0 column ∧ c.before p.line.toNat ++ column = a

theorem offset_eq_ok_iff_reaches {n : Nat} :
    c.offset p = .ok n ↔ ∃ a, c.Reaches p a ∧ byteLength a = n := by
  rw [offset_eq_ok_iff]
  constructor
  · rintro ⟨line, column, hl, hc, hr, rfl⟩
    exact ⟨_, ⟨line, column, hl, hc, hr, rfl⟩, rfl⟩
  · rintro ⟨_, ⟨line, column, hl, hc, hr, rfl⟩, rfl⟩
    exact ⟨line, column, hl, hc, hr, rfl⟩

namespace Reaches

theorem offset (h : c.Reaches p a) : c.offset p = .ok (byteLength a) :=
  offset_eq_ok_iff_reaches.mpr ⟨a, h, rfl⟩

theorem isPrefix (h : c.Reaches p a) : a <+: c.chars := by
  obtain ⟨line, column, hl, hc, -, rfl⟩ := h
  exact before_append_isPrefix_chars hl hc

theorem text_unique (h : c.Reaches p a) (h' : c.Reaches p b) : a = b := by
  obtain ⟨line, column, hl, hc, hr, rfl⟩ := h
  obtain ⟨line', column', hl', hc', hr', rfl⟩ := h'
  cases hl.symm.trans hl'
  rw [hr.text_unique hr' hc hc']

/-- The line of a position is the number of line feeds before it. -/
theorem count_newline (h : c.Reaches p a) : a.count '\n' = p.line.toNat := by
  obtain ⟨line, column, hl, hc, -, rfl⟩ := h
  have hnone := newline_not_mem_of_lineChars hl hc
  obtain ⟨piece, hmem, -⟩ := lineChars_eq_ok_iff.mp hl
  rw [List.count_append, (isPiece_of_pieces hmem).count_before, List.count_eq_zero.mpr hnone,
    Nat.add_zero]

theorem position_unique (h : c.Reaches p a) (h' : c.Reaches q a) : p = q := by
  have hline : p.line = q.line := by
    rw [← UInt32.toNat_inj, ← h.count_newline, h'.count_newline]
  obtain ⟨line, column, -, -, hr, rfl⟩ := h
  obtain ⟨line', column', -, -, hr', heq⟩ := h'
  rw [hline] at heq
  rw [List.append_cancel_left heq] at hr'
  cases p
  cases q
  cases hline
  cases hr.1.symm.trans hr'.1
  rfl

theorem isPrefix_of_not_precedes (hp : c.Reaches p a) (hq : c.Reaches q b)
    (h : q.precedes p = false) : a <+: b := by
  obtain ⟨line, column, hl, hc, hr, rfl⟩ := hp
  obtain ⟨line', column', hl', hc', hr', rfl⟩ := hq
  exact before_append_isPrefix_of_not_precedes h hl hl' hc hc' hr hr'

theorem byteLength_lt (hp : c.Reaches p a) (hq : c.Reaches q b) (h : p.precedes q = true) :
    byteLength a < byteLength b := by
  obtain ⟨part, rfl⟩ := hp.isPrefix_of_not_precedes hq (Position.precedes_asymm h)
  have hpart : byteLength part ≠ 0 := by
    intro hzero
    rw [byteLength_eq_zero hzero, List.append_nil] at hq
    rw [hp.position_unique hq, Position.precedes_irrefl] at h
    cases h
  rw [byteLength_append]
  omega

/-- Of two places in a text, the position of the later one does not precede. -/
theorem not_precedes_of_isPrefix (hp : c.Reaches p a) (hq : c.Reaches q b) (h : a <+: b) :
    q.precedes p = false := by
  rw [Bool.eq_false_iff]
  intro hqp
  have hle := byteLength_le_of_prefix h
  exact Nat.not_lt.mpr hle (hq.byteLength_lt hp hqp)

end Reaches

/-! ### The text between two positions -/

theorem sub_eq_ok_iff_slice? {s : String} :
    c.sub p q = .ok s ↔ q.precedes p = false ∧ ∃ m n, c.offset p = .ok m ∧ c.offset q = .ok n ∧
      slice? c.chars m n = some s.toList := by
  unfold sub
  cases hqp : q.precedes p with
  | true => simp
  | false =>
    rw [if_neg Bool.false_ne_true]
    cases hm : c.offset p with
    | error e => simp [bind, Except.bind]
    | ok m =>
      cases hn : c.offset q with
      | error e => simp [bind, Except.bind]
      | ok n =>
        cases hs : slice? c.chars m n with
        | none => simp [bind, Except.bind, slice, hs]
        | some part => simp [bind, Except.bind, slice, hs, String.ext_iff]

/-- The text between two positions takes one to the other. -/
theorem sub_eq_ok_iff {s : String} :
    c.sub p q = .ok s ↔ ∃ a, c.Reaches p a ∧ c.Reaches q (a ++ s.toList) := by
  simp only [sub_eq_ok_iff_slice?, slice?_eq_some_iff]
  constructor
  · rintro ⟨-, m, n, hm, hn, a, b, htext, rfl, rfl⟩
    obtain ⟨a', hp, ha⟩ := offset_eq_ok_iff_reaches.mp hm
    obtain ⟨b', hq, hb⟩ := offset_eq_ok_iff_reaches.mp hn
    have hbt : a ++ s.toList <+: c.chars := ⟨b, htext.symm⟩
    have hat : a <+: c.chars := (List.prefix_append a _).trans hbt
    rw [eq_of_byteLength_eq hp.isPrefix hat ha] at hp
    rw [eq_of_byteLength_eq hq.isPrefix hbt hb] at hq
    exact ⟨a, hp, hq⟩
  · rintro ⟨a, hp, hq⟩
    obtain ⟨b, hb⟩ := hq.isPrefix
    exact ⟨hp.not_precedes_of_isPrefix hq (List.prefix_append a _), _, _, hp.offset, hq.offset,
      a, b, hb.symm, rfl, rfl⟩

theorem Reaches.sub {part : List Char} (hp : c.Reaches p a) (hq : c.Reaches q (a ++ part)) :
    c.sub p q = .ok (String.ofList part) :=
  sub_eq_ok_iff.mpr ⟨a, hp, by rwa [String.toList_ofList]⟩

/-- Texts that meet at a position add up. -/
theorem exists_sub_append {r : Position} {d : List Char} (hp : c.Reaches p a) (hq : c.Reaches q b)
    (hr : c.Reaches r d) (hpq : q.precedes p = false) (hqr : r.precedes q = false) :
    ∃ first second, c.sub p q = .ok first ∧ c.sub q r = .ok second ∧
      c.sub p r = .ok (first ++ second) := by
  obtain ⟨first, rfl⟩ := hp.isPrefix_of_not_precedes hq hpq
  obtain ⟨second, rfl⟩ := hq.isPrefix_of_not_precedes hr hqr
  refine ⟨String.ofList first, String.ofList second, hp.sub hq, hq.sub hr, ?_⟩
  rw [← String.ofList_append]
  rw [List.append_assoc] at hr
  exact hp.sub hr

theorem sub_eq_error_iff {e : TextError} :
    c.sub p q = .error e ↔ q.precedes p = true ∧ e = .reversedRange p q ∨ q.precedes p = false ∧
      (c.offset p = .error e ∨ (∃ m, c.offset p = .ok m) ∧ c.offset q = .error e) := by
  cases hqp : q.precedes p with
  | true => simp [sub, hqp, eq_comm]
  | false =>
    cases hm : c.offset p with
    | error cause => simp [sub, hqp, hm, bind, Except.bind]
    | ok m =>
      cases hn : c.offset q with
      | error cause => simp [sub, hqp, hm, hn, bind, Except.bind]
      | ok n =>
        obtain ⟨a, hp, -⟩ := offset_eq_ok_iff_reaches.mp hm
        obtain ⟨b, hq, -⟩ := offset_eq_ok_iff_reaches.mp hn
        obtain ⟨part, rfl⟩ := hp.isPrefix_of_not_precedes hq hqp
        simp [hp.sub hq]

/-- A position has no offset for want of a line or of a column. -/
theorem offset_error_cases {e : TextError} (h : c.offset p = .error e) :
    e = .lineOutOfRange p.line c.lineCount ∨ e = .columnOutOfRange p.line p.character := by
  rw [offset_eq_error_iff, lineChars_eq_error_iff] at h
  rcases h with ⟨-, he⟩ | ⟨line, -, -, he⟩
  · exact .inl he
  · exact .inr he

theorem sub_error_cases {e : TextError} (h : c.sub p q = .error e) :
    q.precedes p = true ∧ e = .reversedRange p q ∨ q.precedes p = false ∧
      ∃ r : Position, e = .lineOutOfRange r.line c.lineCount ∨
        e = .columnOutOfRange r.line r.character := by
  rcases sub_eq_error_iff.mp h with hreversed | ⟨hqp, hp | ⟨-, hq⟩⟩
  · exact .inl hreversed
  · exact .inr ⟨hqp, p, offset_error_cases hp⟩
  · exact .inr ⟨hqp, q, offset_error_cases hq⟩

theorem sub_eq_reversedRange_iff :
    c.sub p q = .error (.reversedRange p q) ↔ q.precedes p = true := by
  refine ⟨fun h => ?_, fun h => sub_eq_error_iff.mpr (.inl ⟨h, rfl⟩)⟩
  rcases sub_error_cases h with ⟨hqp, -⟩ | ⟨-, r, he | he⟩
  · exact hqp
  · cases he
  · cases he

theorem sub_ne_unaligned {m n : Nat} : c.sub p q ≠ .error (.unaligned m n) := by
  intro h
  rcases sub_error_cases h with ⟨-, he⟩ | ⟨-, r, he | he⟩ <;> cases he

/-- Offsets are places between characters, in the order of the positions. So a cut between two
positions never fails: the text between them is missing only if the second precedes the first or
one of them has no offset, and texts that meet at a position add up. All this holds whether or not
the count of units overflows. -/
theorem parts_between (c : Content) :
    (∀ p q m n, p.precedes q = true → c.offset p = .ok m → c.offset q = .ok n → m < n) ∧
    (∀ p m, c.offset p = .ok m → ∃ s t, c.text = s ++ t ∧ s.utf8ByteSize = m) ∧
    (∀ p q, c.sub p q = .error (.reversedRange p q) ↔ q.precedes p = true) ∧
    (∀ p q e, c.sub p q = .error e ↔
      q.precedes p = true ∧ e = .reversedRange p q ∨ q.precedes p = false ∧
        (c.offset p = .error e ∨ (∃ m, c.offset p = .ok m) ∧ c.offset q = .error e)) ∧
    (∀ p q m n, c.sub p q ≠ .error (.unaligned m n)) ∧
    (∀ p q part, c.sub p q = .ok part ↔ q.precedes p = false ∧
      ∃ m n, c.offset p = .ok m ∧ c.offset q = .ok n ∧
        ∃ s t, c.text = s ++ part ++ t ∧ s.utf8ByteSize = m ∧ (s ++ part).utf8ByteSize = n) ∧
    ∀ p q r l m n, q.precedes p = false → r.precedes q = false →
      c.offset p = .ok l → c.offset q = .ok m → c.offset r = .ok n →
      ∃ first second, c.sub p q = .ok first ∧ c.sub q r = .ok second ∧
        c.sub p r = .ok (first ++ second) := by
  refine ⟨fun p q m n hpq hm hn => ?_, fun p m hm => ?_,
    fun p q => sub_eq_reversedRange_iff, fun p q e => sub_eq_error_iff,
    fun p q m n => sub_ne_unaligned, fun p q part => ?_,
    fun p q r l m n hpq hqr hl hm hn => ?_⟩
  · obtain ⟨a, hp, rfl⟩ := offset_eq_ok_iff_reaches.mp hm
    obtain ⟨b, hq, rfl⟩ := offset_eq_ok_iff_reaches.mp hn
    exact hp.byteLength_lt hq hpq
  · obtain ⟨a, hp, rfl⟩ := offset_eq_ok_iff_reaches.mp hm
    obtain ⟨rest, hrest⟩ := hp.isPrefix
    refine ⟨String.ofList a, String.ofList rest, ?_, utf8ByteSize_ofList a⟩
    rw [← String.ofList_append, hrest, chars, String.ofList_toList]
  · rw [sub_eq_ok_iff_slice?]
    simp only [chars, slice?_toList_eq_some_iff]
  · obtain ⟨a, hp, -⟩ := offset_eq_ok_iff_reaches.mp hl
    obtain ⟨b, hq, -⟩ := offset_eq_ok_iff_reaches.mp hm
    obtain ⟨d, hr, -⟩ := offset_eq_ok_iff_reaches.mp hn
    exact exists_sub_append hp hq hr hpq hqr

end Content

end EditorSession
