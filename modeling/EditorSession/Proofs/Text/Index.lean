import EditorSession.Text.Content

/-! The index of a text, and the lines that it leads to.

The pieces of a text between its line feeds are its lines with their `\r`. The index has the byte
offset of each of them (`Content.getElem?_lineStarts`), so the bounds of a line are where its piece
begins and ends, less one `\r` (`Content.lineBounds_of_pieces`), and no cut for a line falls inside a
character or outside the text (`Content.lineChars_of_pieces`). -/

namespace EditorSession

theorem byteLength_le_of_prefix {a b : List Char} (h : a <+: b) : byteLength a ≤ byteLength b := by
  obtain ⟨t, rfl⟩ := h
  rw [byteLength_append]
  exact Nat.le_add_right _ _

theorem byteLength_eq_zero {a : List Char} (h : byteLength a = 0) : a = [] := by
  cases a with
  | nil => rfl
  | cons c cs =>
    have hc := c.utf8Size_pos
    rw [byteLength] at h
    omega

/-- Of two beginnings of a text, the one with fewer bytes is a beginning of the other. -/
theorem prefix_of_byteLength_le {text a b : List Char} (ha : a <+: text) (hb : b <+: text)
    (h : byteLength a ≤ byteLength b) : a <+: b := by
  rcases List.prefix_or_prefix_of_prefix ha hb with hab | hba
  · exact hab
  · obtain ⟨t, rfl⟩ := hba
    rw [byteLength_append] at h
    have ht : t = [] := byteLength_eq_zero (by omega)
    exact ⟨[], by rw [ht, List.append_nil, List.append_nil]⟩

theorem eq_of_byteLength_eq {text a b : List Char} (ha : a <+: text) (hb : b <+: text)
    (h : byteLength a = byteLength b) : a = b := by
  have hab := prefix_of_byteLength_le ha hb (Nat.le_of_eq h)
  have hba := prefix_of_byteLength_le hb ha (Nat.le_of_eq h.symm)
  exact hab.eq_of_length_le hba.length_le

/-! ### Cuts -/

theorem slice?_eq_some_iff {text part : List Char} {m n : Nat} :
    slice? text m n = some part ↔ ∃ a b, text = a ++ part ++ b ∧ byteLength a = m ∧
      byteLength (a ++ part) = n := by
  unfold slice?
  constructor
  · intro h
    split at h
    · cases h
    · next hle =>
      simp only [Option.bind_eq_bind, Option.bind_eq_some_iff, Option.some.injEq] at h
      obtain ⟨⟨a, rest⟩, hfirst, ⟨part', b⟩, hlast, rfl⟩ := h
      obtain ⟨rfl, rfl⟩ := splitAtByte?_eq_some_iff.mp hfirst
      obtain ⟨rfl, hlength⟩ := splitAtByte?_eq_some_iff.mp hlast
      refine ⟨a, b, (List.append_assoc ..).symm, rfl, ?_⟩
      rw [byteLength_append, hlength]
      omega
  · rintro ⟨a, b, rfl, rfl, rfl⟩
    have hfirst : splitAtByte? (a ++ part ++ b) (byteLength a) = some (a, part ++ b) :=
      splitAtByte?_eq_some_iff.mpr ⟨List.append_assoc .., rfl⟩
    have hlast : splitAtByte? (part ++ b) (byteLength (a ++ part) - byteLength a) =
        some (part, b) :=
      splitAtByte?_eq_some_iff.mpr ⟨rfl, by rw [byteLength_append]; omega⟩
    have hle := byteLength_le_of_prefix (List.prefix_append a part)
    rw [if_neg (Nat.not_lt.mpr hle), hfirst]
    simp only [Option.bind_eq_bind, Option.bind_some, hlast]

/-- There is a part from one place between characters to a later one. -/
theorem exists_slice?_eq_some {text a b : List Char} (ha : a <+: text) (hb : b <+: text)
    (h : byteLength a ≤ byteLength b) :
    ∃ part, slice? text (byteLength a) (byteLength b) = some part := by
  obtain ⟨part, rfl⟩ := prefix_of_byteLength_le ha hb h
  obtain ⟨rest, rfl⟩ := hb
  exact ⟨part, slice?_eq_some_iff.mpr ⟨a, rest, rfl, rfl, rfl⟩⟩

/-! ### Lines -/

/-- A line less one `\r` at its end. -/
def withoutReturn (line : List Char) : List Char :=
  if line.getLast? = some '\r' then line.dropLast else line

theorem withoutReturn_isPrefix (line : List Char) : withoutReturn line <+: line := by
  unfold withoutReturn
  split
  · exact List.dropLast_prefix line
  · exact List.prefix_refl line

/-- The pieces of a text, each with a line feed, are the text with one line feed more. -/
theorem flatMap_newline_splitOn (text : List Char) :
    (text.splitOn '\n').flatMap (· ++ ['\n']) = text ++ ['\n'] := by
  have key : ∀ lines : List (List Char), lines ≠ [] →
      lines.flatMap (· ++ ['\n']) = ['\n'].intercalate lines ++ ['\n'] := by
    intro lines
    induction lines with
    | nil => exact fun h => (h rfl).elim
    | cons line rest ih =>
      intro _
      by_cases hrest : rest = []
      · simp [hrest]
      · rw [List.flatMap_cons, ih hrest, List.intercalate_cons_of_ne_nil hrest]
        simp only [List.append_assoc]
  rw [key _ (List.splitOn_ne_nil '\n' text), List.intercalate_splitOn]

/-- The offsets of the pieces of a text, if its first piece is at `offset`. -/
theorem getElem?_starts (text : List Char) (offset n : Nat) :
    (offset :: (byteOffsetsOf '\n' text offset).map (· + 1))[n]? =
      (text.splitOn '\n')[n]?.map fun _ =>
        offset + byteLength (((text.splitOn '\n').take n).flatMap (· ++ ['\n'])) := by
  induction text generalizing offset n with
  | nil => cases n <;> simp [byteOffsetsOf, byteLength]
  | cons c text ih =>
    rw [List.splitOn_cons_eq_if_modifyHead, byteOffsetsOf]
    by_cases hc : c = '\n'
    · -- the piece before the line feed is empty
      subst hc
      simp only [beq_self_eq_true, if_true]
      cases n with
      | zero => simp [byteLength]
      | succ n =>
        rw [List.map_cons, List.getElem?_cons_succ, List.getElem?_cons_succ]
        refine (ih (offset + 1) n).trans ?_
        simp only [List.take_succ_cons, List.flatMap_cons, List.nil_append, List.singleton_append,
          byteLength, Nat.add_assoc]
        rfl
    · simp only [beq_iff_eq, hc, if_false]
      obtain ⟨first, rest, hsplit⟩ := List.exists_cons_of_ne_nil (List.splitOn_ne_nil '\n' text)
      have htail := ih (offset + c.utf8Size) n
      rw [hsplit] at htail ⊢
      rw [List.modifyHead_cons]
      cases n with
      | zero => simp [byteLength]
      | succ n =>
        rw [List.getElem?_cons_succ] at htail ⊢
        refine htail.trans ?_
        simp only [List.getElem?_cons_succ, List.take_succ_cons, List.flatMap_cons,
          List.cons_append, byteLength, Nat.add_assoc]

namespace Content

/-- The lines with their `\r`, if any, but without `\n`. -/
def pieces (c : Content) : List (List Char) := c.chars.splitOn '\n'

/-- The text of the lines before the line with the given number. -/
def before (c : Content) (n : Nat) : List Char := (c.pieces.take n).flatMap (· ++ ['\n'])

theorem before_isPrefix (c : Content) {m n : Nat} (h : m ≤ n) : c.before m <+: c.before n := by
  obtain ⟨rest, hrest⟩ := List.take_prefix_take_left (l := c.pieces) h
  rw [before, before, ← hrest, List.flatMap_append]
  exact List.prefix_append _ _

theorem before_succ {c : Content} {n : Nat} {piece : List Char} (h : c.pieces[n]? = some piece) :
    c.before (n + 1) = c.before n ++ (piece ++ ['\n']) := by
  rw [before, List.take_add_one, h, List.flatMap_append]
  simp [before]

/-- A line of a text joined from lines stands after the lines before it. -/
theorem before_append_isPrefix {c : Content} {n : Nat} {piece : List Char}
    (h : c.pieces[n]? = some piece) : c.before n ++ piece <+: c.chars := by
  have key : ∀ (pieces : List (List Char)) (n : Nat), pieces[n]? = some piece →
      (pieces.take n).flatMap (· ++ ['\n']) ++ piece <+: ['\n'].intercalate pieces := by
    intro pieces
    induction pieces with
    | nil => nofun
    | cons first rest ih =>
      intro n hn
      cases n with
      | zero =>
        cases hn
        cases rest with
        | nil => simp
        | cons second rest =>
          rw [List.intercalate_cons_cons, List.append_assoc]
          exact List.prefix_append _ _
      | succ n =>
        have hrest : rest ≠ [] := by
          rintro rfl
          cases hn
        rw [List.intercalate_cons_of_ne_nil hrest, List.take_succ_cons, List.flatMap_cons,
          List.append_assoc, List.prefix_append_right_inj]
        exact ih n hn
  have hjoin : ['\n'].intercalate c.pieces = c.chars := List.intercalate_splitOn '\n'
  rw [← hjoin]
  exact key c.pieces n h

theorem before_append_eq_chars {c : Content} {n : Nat} {piece : List Char}
    (h : c.pieces[n]? = some piece) (hlast : c.pieces[n + 1]? = none) :
    c.before n ++ piece = c.chars := by
  have hall : c.before (n + 1) = c.chars ++ ['\n'] := by
    rw [before, List.take_of_length_le (List.getElem?_eq_none_iff.mp hlast), pieces,
      flatMap_newline_splitOn]
  rw [before_succ h, ← List.append_assoc] at hall
  exact List.append_cancel_right hall

/-! ### The index -/

/-- A line begins where the lines before it end. -/
theorem getElem?_lineStarts (c : Content) (n : Nat) :
    c.lineStarts[n]? = c.pieces[n]?.map fun _ => byteLength (c.before n) := by
  rw [lineStarts, getElem?_starts]
  simp only [Nat.zero_add]
  rfl

theorem lineCount_eq (c : Content) : c.lineCount = c.pieces.length := by
  have h (n : Nat) : c.lineCount ≤ n ↔ c.pieces.length ≤ n := by
    rw [lineCount, ← List.getElem?_eq_none_iff, ← List.getElem?_eq_none_iff, getElem?_lineStarts,
      Option.map_eq_none_iff]
  exact Nat.le_antisymm ((h _).mpr (Nat.le_refl _)) ((h _).mp (Nat.le_refl _))

theorem slice_eq_ok_iff {c : Content} {m n : Nat} {part : List Char} :
    c.slice m n = .ok part ↔ slice? c.chars m n = some part := by
  rw [slice]
  cases slice? c.chars m n <;> simp

theorem slice_of_isPrefix {c : Content} {a part : List Char} (h : a ++ part <+: c.chars) :
    c.slice (byteLength a) (byteLength (a ++ part)) = .ok part := by
  obtain ⟨b, hb⟩ := h
  exact slice_eq_ok_iff.mpr (slice?_eq_some_iff.mpr ⟨a, b, hb.symm, rfl, rfl⟩)

variable {c : Content} {n : UInt32} {piece : List Char}

theorem lineBounds_of_none (h : c.pieces[n.toNat]? = none) :
    c.lineBounds n = .error (.lineOutOfRange n c.lineCount) := by
  rw [lineBounds, getElem?_lineStarts, h]
  rfl

/-- A line stands where its piece does, and ends before the `\r` of the piece. -/
theorem lineBounds_of_pieces (h : c.pieces[n.toNat]? = some piece) :
    c.lineBounds n = .ok (byteLength (c.before n.toNat),
      byteLength (c.before n.toNat ++ withoutReturn piece)) := by
  have hpart := slice_of_isPrefix (before_append_isPrefix h)
  have hbounds : c.lineBounds n = .ok (byteLength (c.before n.toNat),
      if piece.getLast? = some '\r' then byteLength (c.before n.toNat ++ piece) - 1
      else byteLength (c.before n.toNat ++ piece)) := by
    rw [lineBounds, getElem?_lineStarts, getElem?_lineStarts, h]
    cases hnext : c.pieces[n.toNat + 1]? with
    | none =>
      rw [before_append_eq_chars h hnext] at hpart ⊢
      simp [hpart, bind, Except.bind]
    | some next =>
      have hfeed : byteLength (c.before (n.toNat + 1)) - 1 =
          byteLength (c.before n.toNat ++ piece) := by
        rw [before_succ h, ← List.append_assoc, byteLength_append]
        rfl
      simp [hfeed, hpart, bind, Except.bind]
  rw [hbounds, withoutReturn]
  split
  · next hlast =>
    obtain ⟨front, rfl⟩ := List.getLast?_eq_some_iff.mp hlast
    rw [List.dropLast_concat, ← List.append_assoc, byteLength_append]
    rfl
  · rfl

/-- The cut for a line never fails. -/
theorem lineChars_of_pieces (h : c.pieces[n.toNat]? = some piece) :
    c.lineChars n = .ok (withoutReturn piece) := by
  have hline : c.before n.toNat ++ withoutReturn piece <+: c.chars :=
    ((List.prefix_append_right_inj _).mpr (withoutReturn_isPrefix piece)).trans
      (before_append_isPrefix h)
  rw [lineChars, lineBounds_of_pieces h]
  exact slice_of_isPrefix hline

theorem lineChars_of_none (h : c.pieces[n.toNat]? = none) :
    c.lineChars n = .error (.lineOutOfRange n c.lineCount) := by
  rw [lineChars, lineBounds_of_none h]
  rfl

theorem lineChars_eq_ok_iff {line : List Char} :
    c.lineChars n = .ok line ↔
      ∃ piece, c.pieces[n.toNat]? = some piece ∧ withoutReturn piece = line := by
  cases h : c.pieces[n.toNat]? with
  | none => simp [lineChars_of_none h]
  | some piece => simp [lineChars_of_pieces h]

/-- A position is a column of its line, after the text of the lines before. -/
theorem offset_eq (c : Content) (p : Position) :
    c.offset p = (c.lineChars p.line).bind fun line =>
      (byteOffset? line p.character).elim (.error (.columnOutOfRange p.line p.character))
        fun offset => .ok (byteLength (c.before p.line.toNat) + offset) := by
  unfold offset
  cases h : c.pieces[p.line.toNat]? with
  | none =>
    rw [lineBounds_of_none h, lineChars_of_none h]
    rfl
  | some piece =>
    have hline := lineChars_of_pieces h
    have hcut := hline
    rw [lineChars, lineBounds_of_pieces h] at hcut
    rw [hline, lineBounds_of_pieces h]
    simp only [bind, Except.bind] at hcut ⊢
    rw [hcut]
    cases ho : byteOffset? (withoutReturn piece) p.character <;> simp [ho]

end Content

end EditorSession
