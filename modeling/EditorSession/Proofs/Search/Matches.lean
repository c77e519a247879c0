import EditorSession.Proofs.Search.Groups
import EditorSession.Proofs.Text.Parts

/-! The line of a result and its match fit together.

A match within one line is a part of the line (`Content.ShortLines.line_eq_append`). A longer one
begins with the rest of the line, which ends as the line of the text does, and has a line feed for
every line that it goes on (`Content.count_newline_sub`). -/

namespace EditorSession

namespace Content

variable {c : Content} {p q : Position} {line s : String}

theorem line_eq_ok_iff_lineChars {n : UInt32} :
    c.line n = .ok line ↔ c.lineChars n = .ok line.toList := by
  rw [line_eq_ok_iff]
  simp only [isLine_iff, exists_and_left, exists_eq', and_true]

/-- The line feeds of a part are the lines from its start to its end. -/
theorem count_newline_sub (h : c.sub p q = .ok s) :
    p.line.toNat + s.toList.count '\n' = q.line.toNat := by
  obtain ⟨a, hp, hq⟩ := sub_eq_ok_iff.mp h
  rw [← hp.count_newline, ← hq.count_newline, List.count_append]

/-- In a line whose units can be counted, a position is a number of units. -/
theorem ShortLines.reaches_iff (hc : c.ShortLines) {line a : List Char}
    (hl : c.lineChars p.line = .ok line) :
    c.Reaches p a ↔ ∃ column, column <+: line ∧ unitLength column = p.character.toNat ∧
      c.before p.line.toNat ++ column = a := by
  have hunits {column : List Char} (hcolumn : column <+: line) :
      Units.Reaches p.character 0 column ↔ unitLength column = p.character.toNat :=
    Units.reaches_iff_of_prefix hcolumn (hc.unitLength_lt hl)
  constructor
  · rintro ⟨line', column, hl', hcolumn, hr, heq⟩
    cases hl.symm.trans hl'
    exact ⟨column, hcolumn, (hunits hcolumn).mp hr, heq⟩
  · rintro ⟨column, hcolumn, hu, heq⟩
    exact ⟨line, column, hl, hcolumn, (hunits hcolumn).mpr hu, heq⟩

/-- A part within one line, with what stands before it and after it. -/
theorem ShortLines.line_eq_append (hc : c.ShortLines) (hl : c.line p.line = .ok line)
    (hs : c.sub p q = .ok s) (hpq : p.line = q.line) :
    ∃ a b : String, line = a ++ s ++ b ∧ unitLength a.toList = p.character.toNat ∧
      unitLength s.toList + p.character.toNat = q.character.toNat := by
  rw [line_eq_ok_iff_lineChars] at hl
  obtain ⟨a, hp, hq⟩ := sub_eq_ok_iff.mp hs
  obtain ⟨column, -, hu, rfl⟩ := (hc.reaches_iff hl).mp hp
  rw [hpq] at hl hq
  obtain ⟨column', ⟨rest, hline⟩, hu', heq⟩ := (hc.reaches_iff hl).mp hq
  rw [List.append_assoc] at heq
  obtain rfl := List.append_cancel_left heq
  refine ⟨String.ofList column, String.ofList rest, ?_, by simpa using hu, ?_⟩
  · rw [← String.toList_inj, ← hline]
    simp
  · rw [← hu', unitLength_append, hu]
    omega

/-- From a position on, a piece ends before the next line feed. -/
theorem pieces_of_newline {line column first rest : List Char}
    (hl : c.lineChars p.line = .ok line) (hcolumn : column <+: line)
    (h : c.before p.line.toNat ++ column ++ (first ++ '\n' :: rest) <+: c.chars)
    (hfirst : '\n' ∉ first) : c.pieces[p.line.toNat]? = some (column ++ first) := by
  have hnone := newline_not_mem_of_lineChars hl hcolumn
  obtain ⟨piece, hmem, -⟩ := lineChars_eq_ok_iff.mp hl
  have hpiece := isPiece_of_pieces hmem
  obtain ⟨tail, htail⟩ := h
  have hpiece' : IsPiece c.chars p.line.toNat (c.before p.line.toNat) (column ++ first) := by
    refine ⟨⟨'\n' :: rest ++ tail, ?_, .inr rfl⟩, hpiece.begins, hpiece.count_before, ?_⟩
    · rw [← htail]
      simp
    · simp [hnone, hfirst]
  exact (pieces_of_isPiece hpiece').1

/-- A part of more than one line begins with the rest of its first line, with or without the `\r`
that ends it. -/
theorem ShortLines.exists_first_line (hc : c.ShortLines) (hl : c.line p.line = .ok line)
    (hs : c.sub p q = .ok s) (hpq : p.line ≠ q.line) :
    ∃ a suffix first rest : String, line = a ++ suffix ∧ unitLength a.toList = p.character.toNat ∧
      s = first ++ "\n" ++ rest ∧ '\n' ∉ first.toList ∧
      (first = suffix ++ "\r" ∨ first = suffix ∧ suffix.toList.getLast? ≠ some '\r') := by
  have hcount := count_newline_sub hs
  have hmem : '\n' ∈ s.toList := by
    rw [← List.count_pos_iff]
    have hne : p.line.toNat ≠ q.line.toNat := fun h => hpq (UInt32.toNat_inj.mp h)
    omega
  obtain ⟨first, rest, hsplit, hfirst⟩ := List.eq_append_cons_of_mem hmem
  rw [line_eq_ok_iff_lineChars] at hl
  obtain ⟨a, hp, hq⟩ := sub_eq_ok_iff.mp hs
  obtain ⟨column, hcolumn, hu, rfl⟩ := (hc.reaches_iff hl).mp hp
  have hpiece := pieces_of_newline hl hcolumn (hsplit ▸ hq.isPrefix) hfirst
  obtain ⟨suffix, hline⟩ := hcolumn
  obtain ⟨piece, hpiece', hreturn⟩ := lineChars_eq_ok_iff.mp hl
  cases hpiece.symm.trans hpiece'
  refine ⟨String.ofList column, String.ofList suffix, String.ofList first, String.ofList rest,
    ?_, by simpa using hu, ?_, by simpa using hfirst, ?_⟩
  · rw [← String.toList_inj, ← hline]
    simp
  · rw [← String.toList_inj, hsplit]
    simp
  · rw [← hline, withoutReturn_eq_iff] at hreturn
    rcases hreturn with heq | ⟨heq, hlast⟩
    · rw [List.append_assoc] at heq
      rw [List.append_cancel_left heq]
      exact .inl (by simp)
    · rw [List.append_cancel_left heq]
      refine .inr ⟨rfl, fun hr => hlast ?_⟩
      rw [List.getLast?_append, ← String.toList_ofList (l := suffix), hr]
      rfl

end Content

namespace Search

variable {w : World} {openText : OpenText} {l : SparseLocation} {r : SearchResult}

/-- The line and the match of a result at a range of a text. In one line the match is the part of
the line that begins and ends at the columns of the range. Otherwise it has as many line feeds as
the range goes on lines, and what is before the first of them is the rest of the line from the
column of the start on, less one `\r`. -/
theorem texts_of_found (hr : resolve w openText l = .ok (.found r))
    (hshort : ∀ content, contentOf w openText r.file = .ok content → content.ShortLines) :
    l.range = some r.range ∧
    (r.range.start.line = r.range.stop.line → ∃ a b : String, r.line = a ++ r.matched ++ b ∧
      unitLength a.toList = r.range.start.character.toNat ∧
      unitLength r.matched.toList + r.range.start.character.toNat =
        r.range.stop.character.toNat) ∧
    (r.range.start.line ≠ r.range.stop.line →
      r.range.start.line.toNat + r.matched.toList.count '\n' = r.range.stop.line.toNat ∧
      ∃ a suffix first rest : String, r.line = a ++ suffix ∧
        unitLength a.toList = r.range.start.character.toNat ∧
        r.matched = first ++ "\n" ++ rest ∧ '\n' ∉ first.toList ∧
        (first = suffix ++ "\r" ∨ first = suffix ∧ suffix.toList.getLast? ≠ some '\r')) := by
  obtain ⟨content, ht, hline, hsub⟩ := resolve_eq_found_iff_hasText.mp hr
  have hc : content.ShortLines := hshort content (contentOf_eq_ok_iff.mpr ht.text)
  exact ⟨ht.place, hc.line_eq_append hline hsub,
    fun hne => ⟨Content.count_newline_sub hsub, hc.exists_first_line hline hsub hne⟩⟩

/-- A match from behind a surrogate pair to the next line. The line keeps one of its two `\r`. -/
theorem texts_of_found_returns :
    let w : World := { cwd := .ofString "/", disk := ⟨[([[0x61]], .file [0x78])]⟩ }
    let openText : OpenText := fun _ => some ⟨"𝄞é\r\r\nb"⟩
    let l : SparseLocation :=
      { uri := some { scheme := "file", authority := none, path := .rooted ["a"] }
        range := some { start := ⟨0, 2⟩, stop := ⟨1, 1⟩ } }
    let r : SearchResult :=
      { file := .ofString "/a", range := { start := ⟨0, 2⟩, stop := ⟨1, 1⟩ }, line := "𝄞é\r",
        matched := "é\r\r\nb" }
    resolve w openText l = .ok (.found r) ∧
      (∀ content, contentOf w openText r.file = .ok content → content.ShortLines) ∧
      r.range.start.line.toNat + r.matched.toList.count '\n' = r.range.stop.line.toNat ∧
      ∃ a suffix first rest : String, r.line = a ++ suffix ∧
        unitLength a.toList = r.range.start.character.toNat ∧
        r.matched = first ++ "\n" ++ rest ∧ '\n' ∉ first.toList ∧
        (first = suffix ++ "\r" ∨ first = suffix ∧ suffix.toList.getLast? ≠ some '\r') := by
  intro w openText l r
  have hr : resolve w openText l = .ok (.found r) := by decide +kernel
  have hshort : ∀ content, contentOf w openText r.file = .ok content → content.ShortLines := by
    rintro content ⟨⟩
    exact Content.shortLines_of_unitLength_lt (by decide)
  obtain ⟨-, -, hlonger⟩ := texts_of_found hr hshort
  exact ⟨hr, hshort, hlonger (by decide)⟩

end Search

end EditorSession
