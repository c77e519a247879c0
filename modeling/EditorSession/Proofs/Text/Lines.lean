import EditorSession.Proofs.Text.Positions

/-! A text agrees with the reading of it by its line feeds.

`IsLine` says which line of a text is which without cutting the text: a line is what stands between
two line feeds, or between one and an end of the text, less one `\r`, and its number is that of the
line feeds before it. A content has these lines and no others (`Content.isLine_iff`). Its offsets
are those of the beginnings of lines in whole characters (`Content.ShortLines.offset_eq_ok_iff`), as
long as the count of units does not overflow. -/

namespace EditorSession

/-! ### Pieces -/

/-- A piece of a text between line feeds, after `before` and the `n` line feeds in it. -/
structure IsPiece (text : List Char) (n : Nat) (before piece : List Char) : Prop where
  stands : ∃ rest, text = before ++ (piece ++ rest) ∧ (rest = [] ∨ rest.head? = some '\n')
  begins : before = [] ∨ before.getLast? = some '\n'
  count_before : before.count '\n' = n
  newline_not_mem : '\n' ∉ piece

theorem newline_not_mem_of_mem_splitOn {text piece : List Char} (h : piece ∈ text.splitOn '\n') :
    '\n' ∉ piece := by
  induction text generalizing piece with
  | nil =>
    rw [List.splitOn_nil, List.mem_singleton] at h
    rw [h]
    exact List.not_mem_nil
  | cons c text ih =>
    rw [List.splitOn_cons_eq_if_modifyHead] at h
    obtain ⟨first, rest, hsplit⟩ := List.exists_cons_of_ne_nil (List.splitOn_ne_nil '\n' text)
    rw [hsplit] at h ih
    by_cases hc : c = '\n'
    · rw [if_pos (beq_iff_eq.mpr hc)] at h
      rcases List.mem_cons.mp h with rfl | hmem
      · exact List.not_mem_nil
      · exact ih hmem
    · rw [if_neg (by simpa using hc), List.modifyHead_cons] at h
      rcases List.mem_cons.mp h with rfl | hmem
      · have hfirst := ih List.mem_cons_self
        simpa [hfirst] using Ne.symm hc
      · exact ih (List.mem_cons_of_mem _ hmem)

theorem count_newline_flatMap {lines : List (List Char)} (h : ∀ l ∈ lines, '\n' ∉ l) :
    (lines.flatMap (· ++ ['\n'])).count '\n' = lines.length := by
  induction lines with
  | nil => rfl
  | cons line rest ih =>
    obtain ⟨hline, hrest⟩ := List.forall_mem_cons.mp h
    rw [List.flatMap_cons, List.count_append, List.count_append, List.count_eq_zero.mpr hline,
      ih hrest, List.length_cons, List.count_singleton_self]
    omega

theorem length_splitOn_newline (text : List Char) :
    (text.splitOn '\n').length = text.count '\n' + 1 := by
  have hpieces : ∀ l ∈ text.splitOn '\n', '\n' ∉ l := fun l => newline_not_mem_of_mem_splitOn
  have hcount := count_newline_flatMap hpieces
  rw [flatMap_newline_splitOn, List.count_append, List.count_singleton_self] at hcount
  exact hcount.symm

/-! ### Pieces of a content -/

namespace Content

variable {c : Content} {n : Nat} {before piece : List Char}

theorem isPiece_of_pieces (h : c.pieces[n]? = some piece) :
    IsPiece c.chars n (c.before n) piece where
  stands := by
    -- With one line feed more at its end, the text goes on after every line.
    obtain ⟨t, ht⟩ : c.before (n + 1) <+: c.chars ++ ['\n'] := by
      refine ⟨(c.pieces.drop (n + 1)).flatMap (· ++ ['\n']), ?_⟩
      rw [Content.before, ← List.flatMap_append, List.take_append_drop, pieces,
        flatMap_newline_splitOn]
    have hchars := congrArg List.dropLast ht
    rw [before_succ h, List.dropLast_concat] at hchars
    rcases List.eq_nil_or_concat t with rfl | ⟨rest, x, rfl⟩
    · refine ⟨[], ?_, .inl rfl⟩
      rw [← hchars, List.append_nil, ← List.append_assoc, List.dropLast_concat, List.append_nil]
    · refine ⟨'\n' :: rest, ?_, .inr rfl⟩
      rw [← hchars, List.concat_eq_append, ← List.append_assoc, List.dropLast_concat]
      simp only [List.append_assoc, List.singleton_append]
  begins := by
    cases n with
    | zero => exact .inl rfl
    | succ m =>
      have hm : m < c.pieces.length :=
        Nat.lt_of_succ_lt (List.getElem?_eq_some_iff.mp h).1
      rw [before_succ (List.getElem?_eq_getElem hm)]
      exact .inr (by simp)
  count_before := by
    have hn : n ≤ c.pieces.length := Nat.le_of_lt (List.getElem?_eq_some_iff.mp h).1
    rw [Content.before, count_newline_flatMap, List.length_take_of_le hn]
    intro l hl
    exact newline_not_mem_of_mem_splitOn (List.mem_of_mem_take hl)
  newline_not_mem := newline_not_mem_of_mem_splitOn (List.mem_of_getElem? h)

theorem pieces_of_isPiece (h : IsPiece c.chars n before piece) :
    c.pieces[n]? = some piece ∧ c.before n = before := by
  obtain ⟨rest, htext, hrest⟩ := h.stands
  have hhead : ((piece ++ rest).splitOn '\n')[0]? = some piece := by
    rcases hrest with rfl | hrest
    · rw [List.append_nil, List.splitOn_eq_singleton h.newline_not_mem]
      rfl
    · obtain ⟨rest', rfl⟩ := List.head?_eq_some_iff.mp hrest
      rw [List.splitOn_append_cons_self_of_not_mem h.newline_not_mem]
      rfl
  have hcount := h.count_before
  rw [Content.before, pieces, htext]
  rcases h.begins with rfl | hend
  · subst hcount
    exact ⟨hhead, rfl⟩
  · obtain ⟨first, rfl⟩ := List.getLast?_eq_some_iff.mp hend
    rw [List.count_append, List.count_singleton_self, ← length_splitOn_newline] at hcount
    rw [List.append_assoc, List.singleton_append, List.splitOn_append_cons_self, ← hcount,
      List.getElem?_append_right (Nat.le_refl _), Nat.sub_self, List.take_left,
      flatMap_newline_splitOn]
    exact ⟨hhead, rfl⟩

end Content

/-! ### Lines -/

/-- A line of a text, after `before` and the `n` line feeds in it: a piece, less one `\r` at its
end. -/
def IsLine (text : List Char) (n : Nat) (before line : List Char) : Prop :=
  ∃ piece, IsPiece text n before piece ∧
    (piece = line ++ ['\r'] ∨ piece = line ∧ line.getLast? ≠ some '\r')

theorem withoutReturn_eq_iff {piece line : List Char} :
    withoutReturn piece = line ↔
      piece = line ++ ['\r'] ∨ piece = line ∧ line.getLast? ≠ some '\r' := by
  unfold withoutReturn
  split
  · next h =>
    obtain ⟨front, rfl⟩ := List.getLast?_eq_some_iff.mp h
    rw [List.dropLast_concat]
    constructor
    · rintro rfl
      exact .inl rfl
    · rintro (heq | ⟨rfl, hne⟩)
      · exact List.append_cancel_right heq
      · exact (hne h).elim
  · next h =>
    constructor
    · rintro rfl
      exact .inr ⟨rfl, h⟩
    · rintro (rfl | ⟨rfl, -⟩)
      · exact (h (by simp)).elim
      · rfl

namespace Content

variable {c : Content} {n : UInt32} {before line : List Char}

theorem isLine_iff :
    IsLine c.chars n.toNat before line ↔
      c.lineChars n = .ok line ∧ c.before n.toNat = before := by
  simp only [IsLine, lineChars_eq_ok_iff, ← withoutReturn_eq_iff]
  constructor
  · rintro ⟨piece, hpiece, hline⟩
    obtain ⟨hmem, hbefore⟩ := pieces_of_isPiece hpiece
    exact ⟨⟨piece, hmem, hline⟩, hbefore⟩
  · rintro ⟨⟨piece, hmem, hline⟩, rfl⟩
    exact ⟨piece, isPiece_of_pieces hmem, hline⟩

theorem lineBounds_eq_ok_iff {start stop : Nat} :
    c.lineBounds n = .ok (start, stop) ↔ ∃ before line, IsLine c.chars n.toNat before line ∧
      byteLength before = start ∧ byteLength (before ++ line) = stop := by
  simp only [isLine_iff]
  cases h : c.pieces[n.toNat]? with
  | none => simp [lineBounds_of_none h, lineChars_of_none h]
  | some piece =>
    simp only [lineBounds_of_pieces h, lineChars_of_pieces h, Except.ok.injEq, Prod.mk.injEq]
    constructor
    · rintro ⟨rfl, rfl⟩
      exact ⟨_, _, ⟨rfl, rfl⟩, rfl, rfl⟩
    · rintro ⟨before, line, ⟨rfl, rfl⟩, hstart, hstop⟩
      exact ⟨hstart, hstop⟩

theorem lineChars_eq_error_iff {e : TextError} :
    c.lineChars n = .error e ↔
      c.lineCount ≤ n.toNat ∧ e = .lineOutOfRange n c.lineCount := by
  rw [lineCount_eq, ← List.getElem?_eq_none_iff, ← lineCount_eq]
  cases h : c.pieces[n.toNat]? with
  | none => simp [lineChars_of_none h, eq_comm]
  | some piece => simp [lineChars_of_pieces h]

theorem line_eq_ok_iff {s : String} :
    c.line n = .ok s ↔ ∃ before, IsLine c.chars n.toNat before s.toList := by
  simp only [isLine_iff, exists_and_left, exists_eq', and_true]
  unfold line
  cases c.lineChars n with
  | error e => simp [Except.map]
  | ok cs => simp [Except.map, ← String.toList_inj]

theorem line_eq_error_iff {e : TextError} :
    c.line n = .error e ↔ c.lineCount ≤ n.toNat ∧ e = .lineOutOfRange n c.lineCount := by
  rw [← lineChars_eq_error_iff, line]
  cases c.lineChars n <;> simp [Except.map]

end Content

/-! ### Columns -/

namespace Units

/-- Unit `n` of the text, counted from zero, is the second one of its character. -/
def InsidePair (text : List Char) (n : Nat) : Prop :=
  ∃ a c rest, text = a ++ c :: rest ∧ unitWidth c = 2 ∧ unitLength a + 1 = n

theorem insidePair_cons {c : Char} {cs : List Char} {n : Nat} :
    InsidePair (c :: cs) n ↔
      unitWidth c = 2 ∧ n = 1 ∨ ∃ m, InsidePair cs m ∧ n = unitWidth c + m := by
  constructor
  · rintro ⟨a, d, rest, htext, hd, hn⟩
    cases a with
    | nil =>
      cases htext
      exact .inl ⟨hd, hn.symm⟩
    | cons d' a =>
      cases htext
      rw [unitLength] at hn
      exact .inr ⟨unitLength a + 1, ⟨a, d, rest, rfl, hd, rfl⟩, by omega⟩
  · rintro (⟨hc, rfl⟩ | ⟨m, ⟨a, d, rest, rfl, hd, rfl⟩, rfl⟩)
    · exact ⟨[], c, cs, rfl, hc, rfl⟩
    · exact ⟨c :: a, d, rest, rfl, hd, by rw [unitLength]; omega⟩

theorem exists_prefix_cons {c : Char} {cs : List Char} {n : Nat} :
    (∃ a, a <+: c :: cs ∧ unitLength a = n) ↔
      n = 0 ∨ ∃ m, (∃ a, a <+: cs ∧ unitLength a = m) ∧ n = unitWidth c + m := by
  constructor
  · rintro ⟨a, ha, rfl⟩
    cases a with
    | nil => exact .inl rfl
    | cons d a =>
      obtain ⟨rfl, hcs⟩ := List.cons_prefix_cons.mp ha
      exact .inr ⟨unitLength a, ⟨a, hcs, rfl⟩, rfl⟩
  · rintro (rfl | ⟨m, ⟨a, ha, rfl⟩, rfl⟩)
    · exact ⟨[], List.nil_prefix, rfl⟩
    · exact ⟨c :: a, List.cons_prefix_cons.mpr ⟨rfl, ha⟩, rfl⟩

theorem unitWidth_eq (c : Char) : unitWidth c = 1 ∨ unitWidth c = 2 := by
  unfold unitWidth
  split
  · exact .inl rfl
  · exact .inr rfl

/-- A number of units is that of a beginning of a text, unless it is past the end of the text or
inside a surrogate pair. -/
theorem not_exists_prefix_iff {text : List Char} {n : Nat} :
    (¬∃ a, a <+: text ∧ unitLength a = n) ↔ unitLength text < n ∨ InsidePair text n := by
  induction text generalizing n with
  | nil => simp [InsidePair, unitLength, Nat.pos_iff_ne_zero, eq_comm]
  | cons c cs ih =>
    have hc := unitWidth_eq c
    rw [exists_prefix_cons, insidePair_cons, unitLength]
    by_cases hn : unitWidth c ≤ n
    · obtain ⟨m, rfl⟩ := Nat.exists_eq_add_of_le hn
      have hrest := ih (n := m)
      grind
    · -- no character ends before the second unit of a pair
      have hfew : ∀ P : Nat → Prop, ¬∃ m, P m ∧ n = unitWidth c + m := by
        rintro P ⟨m, -, hm⟩
        omega
      simp only [hfew, or_false]
      omega

end Units

theorem utf8ByteSize_ofList (cs : List Char) :
    (String.ofList cs).utf8ByteSize = byteLength cs := by
  induction cs with
  | nil => rfl
  | cons c cs ih => simp [byteLength, ← ih]

theorem byteLength_toList (s : String) : byteLength s.toList = s.utf8ByteSize := by
  rw [← utf8ByteSize_ofList, String.ofList_toList]

/-- In a text whose units can be counted in a word, a column has no offset if it is past the end of
the text or inside a surrogate pair. -/
theorem byteOffset?_eq_none_iff {text : List Char} {column : UInt32}
    (h : unitLength text < UInt32.size) :
    byteOffset? text column = none ↔
      unitLength text < column.toNat ∨ Units.InsidePair text column.toNat := by
  rw [← Units.not_exists_prefix_iff, Option.eq_none_iff_forall_ne_some, not_exists]
  constructor
  · rintro hnone a ⟨ha, hu⟩
    have hr := (Units.reaches_iff_of_prefix ha h).mpr hu
    exact hnone _ (byteOffset?_eq_some_iff.mpr ⟨a, ha, hr, rfl⟩)
  · intro hnone o ho
    obtain ⟨a, ha, hr, -⟩ := byteOffset?_eq_some_iff.mp ho
    exact hnone a ⟨ha, (Units.reaches_iff_of_prefix ha h).mp hr⟩

namespace Content

variable {c : Content} {p : Position}

/-- Every line has fewer units than a word can count. -/
def ShortLines (c : Content) : Prop :=
  ∀ n before line, IsLine c.chars n before line → unitLength line < UInt32.size

/-- Every text that is not too long as a whole has such lines. -/
theorem shortLines_of_unitLength_lt (h : unitLength c.chars < UInt32.size) : c.ShortLines := by
  rintro n before line ⟨piece, hpiece, hline⟩
  obtain ⟨rest, htext, -⟩ := hpiece.stands
  have hle : unitLength line ≤ unitLength piece := by
    rcases hline with rfl | ⟨rfl, -⟩
    · rw [unitLength_append]
      exact Nat.le_add_right _ _
    · exact Nat.le_refl _
  rw [htext, unitLength_append, unitLength_append] at h
  omega

theorem ShortLines.unitLength_lt (hc : c.ShortLines) {line : List Char}
    (hl : c.lineChars p.line = .ok line) : unitLength line < UInt32.size :=
  hc _ _ line (isLine_iff.mpr ⟨hl, rfl⟩)

theorem ShortLines.offset_eq_ok_iff (hc : c.ShortLines) {o : Nat} :
    c.offset p = .ok o ↔ ∃ before line a, IsLine c.chars p.line.toNat before line ∧ a <+: line ∧
      unitLength a = p.character.toNat ∧ (String.ofList (before ++ a)).utf8ByteSize = o := by
  simp only [Content.offset_eq_ok_iff, utf8ByteSize_ofList]
  constructor
  · rintro ⟨line, a, hl, ha, hr, rfl⟩
    have hu := (Units.reaches_iff_of_prefix ha (hc.unitLength_lt hl)).mp hr
    exact ⟨_, line, a, isLine_iff.mpr ⟨hl, rfl⟩, ha, hu, rfl⟩
  · rintro ⟨before, line, a, hline, ha, hu, rfl⟩
    obtain ⟨hl, rfl⟩ := isLine_iff.mp hline
    have hr := (Units.reaches_iff_of_prefix ha (hc.unitLength_lt hl)).mpr hu
    exact ⟨line, a, hl, ha, hr, rfl⟩

theorem offset_eq_error_iff {e : TextError} :
    c.offset p = .error e ↔ c.lineChars p.line = .error e ∨
      ∃ line, c.lineChars p.line = .ok line ∧ byteOffset? line p.character = none ∧
        e = .columnOutOfRange p.line p.character := by
  rw [offset_eq]
  cases hl : c.lineChars p.line with
  | error cause => simp [Except.bind]
  | ok line => cases ho : byteOffset? line p.character <;> simp [Except.bind, ho, eq_comm]

theorem ShortLines.offset_eq_error_iff (hc : c.ShortLines) {e : TextError} :
    c.offset p = .error e ↔
      (c.lineCount ≤ p.line.toNat ∧ e = .lineOutOfRange p.line c.lineCount) ∨
      ∃ before line, IsLine c.chars p.line.toNat before line ∧
        (unitLength line < p.character.toNat ∨ Units.InsidePair line p.character.toNat) ∧
        e = .columnOutOfRange p.line p.character := by
  rw [Content.offset_eq_error_iff, lineChars_eq_error_iff]
  refine or_congr_right ?_
  constructor
  · rintro ⟨line, hl, hnone, he⟩
    have hcolumn := (byteOffset?_eq_none_iff (hc.unitLength_lt hl)).mp hnone
    exact ⟨_, line, isLine_iff.mpr ⟨hl, rfl⟩, hcolumn, he⟩
  · rintro ⟨before, line, hline, hcolumn, he⟩
    obtain ⟨hl, -⟩ := isLine_iff.mp hline
    exact ⟨line, hl, (byteOffset?_eq_none_iff (hc.unitLength_lt hl)).mpr hcolumn, he⟩

/-- A content has the lines that its text has by its line feeds, at the bytes at which they stand
there, and reads a position as a beginning of a line in whole characters. Past the last line or the
end of a line and inside a surrogate pair there are no positions, and the error says which of these
it is. -/
theorem agrees_with_lines (h : c.ShortLines) :
    c.lineCount = c.chars.count '\n' + 1 ∧
    (∀ n start stop, c.lineBounds n = .ok (start, stop) ↔
      ∃ before line, IsLine c.chars n.toNat before line ∧
        (String.ofList before).utf8ByteSize = start ∧
        (String.ofList (before ++ line)).utf8ByteSize = stop) ∧
    (∀ n s, c.line n = .ok s ↔ ∃ before, IsLine c.chars n.toNat before s.toList) ∧
    (∀ n e, c.line n = .error e ↔ c.lineCount ≤ n.toNat ∧ e = .lineOutOfRange n c.lineCount) ∧
    (∀ p o, c.offset p = .ok o ↔ ∃ before line a, IsLine c.chars p.line.toNat before line ∧
      a <+: line ∧ unitLength a = p.character.toNat ∧
      (String.ofList (before ++ a)).utf8ByteSize = o) ∧
    ∀ p e, c.offset p = .error e ↔
      (c.lineCount ≤ p.line.toNat ∧ e = .lineOutOfRange p.line c.lineCount) ∨
      ∃ before line, IsLine c.chars p.line.toNat before line ∧
        (unitLength line < p.character.toNat ∨ Units.InsidePair line p.character.toNat) ∧
        e = .columnOutOfRange p.line p.character := by
  refine ⟨c.lineCount_eq.trans (length_splitOn_newline _), fun n start stop => ?_,
    fun _ _ => line_eq_ok_iff, fun _ _ => line_eq_error_iff, fun _ _ => h.offset_eq_ok_iff,
    fun _ _ => h.offset_eq_error_iff⟩
  simp only [utf8ByteSize_ofList]
  exact lineBounds_eq_ok_iff

/-- A line that ends in `\r\r\n` keeps one `\r`, and its first character is a surrogate pair. -/
theorem agrees_with_lines_pair :
    let c : Content := ⟨"a\r\n𝄞é\r\r\n"⟩
    c.ShortLines ∧ c.lineCount = 3 ∧ (∃ before, IsLine c.chars 1 before "𝄞é\r".toList) ∧
      c.offset ⟨1, 1⟩ = .error (.columnOutOfRange 1 1) ∧
      c.line 3 = .error (.lineOutOfRange 3 3) := by
  intro c
  have hshort : c.ShortLines := shortLines_of_unitLength_lt (by decide)
  obtain ⟨hcount, -, hline, hmissing, -, hcolumn⟩ := agrees_with_lines hshort
  have hthree : c.lineCount = 3 := hcount.trans (by decide)
  have hpieces : c.pieces = [['a', '\r'], ['𝄞', 'é', '\r', '\r'], []] := by decide +kernel
  have hpiece : c.pieces[(1 : UInt32).toNat]? = some ['𝄞', 'é', '\r', '\r'] := by
    rw [hpieces]
    rfl
  have hread : c.line 1 = .ok "𝄞é\r" := by
    rw [line, lineChars_of_pieces hpiece]
    rfl
  obtain ⟨before, hsecond⟩ := (hline 1 _).mp hread
  refine ⟨hshort, hthree, ⟨before, hsecond⟩, ?_, ?_⟩
  · refine (hcolumn ⟨1, 1⟩ _).mpr (.inr ⟨before, _, hsecond, .inr ?_, rfl⟩)
    exact ⟨[], '𝄞', "é\r".toList, rfl, rfl, rfl⟩
  · refine (hmissing 3 _).mpr ⟨?_, ?_⟩
    · rw [hthree]
      decide
    · rw [hthree]

end Content

end EditorSession
