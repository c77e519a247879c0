import EditorSession.Proofs.Text.Utf8
import EditorSession.Replay

/-! The lines of an input that is text.

An input is cut into lines as bytes, with their ends. For the encoding of a text this comes to the
same as cutting the text at its line feeds (`Client.replay_encode`): no other character has the byte
of a line feed, a line end is blank, and so is what follows the last one. -/

namespace EditorSession

/-! ### Texts and line feeds -/

/-- Lines that are written with their ends are found again, with nothing after the last end. -/
theorem splitOn_flatMap_newline {lines : List (List Char)} (h : ∀ l ∈ lines, '\n' ∉ l) :
    (lines.flatMap (· ++ ['\n'])).splitOn '\n' = lines ++ [[]] := by
  induction lines with
  | nil => rfl
  | cons l ls ih =>
    obtain ⟨hl, hls⟩ := List.forall_mem_cons.mp h
    rw [List.flatMap_cons, List.append_assoc, List.singleton_append, List.splitOn_append_cons_self,
      List.splitOn_eq_singleton hl, ih hls]
    rfl

/-- A blank at the end of a line makes no difference. -/
theorem trimBlank_concat (cs : List Char) {b : Char} (hb : isBlank b = true) :
    trimBlank (cs ++ [b]) = trimBlank cs := by
  unfold trimBlank
  rw [List.dropWhile_append]
  split
  · next h =>
    rw [List.isEmpty_iff.mp h]
    simp [hb]
  · rw [List.reverse_append, List.reverse_singleton, List.singleton_append,
      List.dropWhile_cons_of_pos hb]

/-! ### Bytes and line feeds -/

namespace Utf8

/-- The byte of a line feed belongs to no other character. -/
theorem lineFeed_mem_encodeChar {c : Char} : 0x0A ∈ String.utf8EncodeChar c ↔ c = '\n' := by
  constructor
  · intro h
    obtain ⟨v, hv, rfl⟩ : ∃ v, Nat.isValidChar v ∧ Char.ofNat v = c :=
      ⟨c.toNat, c.valid, Char.ofNat_toNat c⟩
    have hlast : v < 0x110000 := by
      unfold Nat.isValidChar at hv
      omega
    -- all bytes of a longer encoding are 128 or more
    have hhigh {n : Nat} (h : 0x80 ≤ n) (h' : n < 256) : (0x0A : UInt8) ≠ UInt8.ofNat n := by
      intro he
      have := (eq_ofNat_iff h').mp he.symm
      simp at this
      omega
    by_cases h1 : v < 0x80
    · rw [encodeChar_one h1, List.mem_singleton] at h
      rw [(eq_ofNat_iff (by omega)).mp h.symm]
      rfl
    by_cases h2 : v < 0x800
    · rw [encodeChar_two (by omega) h2] at h
      simp only [List.mem_cons, List.not_mem_nil, or_false] at h
      rcases h with h | h <;> exact (hhigh (by omega) (by omega) h).elim
    by_cases h3 : v < 0x10000
    · rw [encodeChar_three (by omega) h3 hv] at h
      simp only [List.mem_cons, List.not_mem_nil, or_false] at h
      rcases h with h | h | h <;> exact (hhigh (by omega) (by omega) h).elim
    · rw [encodeChar_four (by omega) hlast] at h
      simp only [List.mem_cons, List.not_mem_nil, or_false] at h
      rcases h with h | h | h | h <;> exact (hhigh (by omega) (by omega) h).elim
  · rintro rfl
    decide

theorem encode_append (a b : List Char) : encode (a ++ b) = encode a ++ encode b :=
  List.flatMap_append

theorem lineFeed_mem_encode {cs : List Char} : 0x0A ∈ encode cs ↔ '\n' ∈ cs := by
  simp only [encode, List.mem_flatMap, lineFeed_mem_encodeChar, exists_eq_right]

end Utf8

theorem inputLines_of_not_mem {bs : List UInt8} (h : 0x0A ∉ bs) (hne : bs ≠ []) :
    inputLines bs = [bs] := by
  induction bs with
  | nil => exact (hne rfl).elim
  | cons b bs ih =>
    rw [List.mem_cons, not_or] at h
    obtain ⟨hb, hbs⟩ := h
    rw [inputLines, if_neg (Ne.symm hb)]
    cases bs with
    | nil => rfl
    | cons d ds => rw [ih hbs (List.cons_ne_nil d ds)]

theorem inputLines_append {bs : List UInt8} (h : 0x0A ∉ bs) (rest : List UInt8) :
    inputLines (bs ++ 0x0A :: rest) = (bs ++ [0x0A]) :: inputLines rest := by
  induction bs with
  | nil => rw [List.nil_append, inputLines, if_pos rfl, List.nil_append]
  | cons b bs ih =>
    rw [List.mem_cons, not_or] at h
    obtain ⟨hb, hbs⟩ := h
    rw [List.cons_append, inputLines, if_neg (Ne.symm hb), ih hbs]
    rfl

/-! ### Replaying texts -/

namespace Client

variable {Server : Type}

/-- Replays lines of text. -/
def replayTexts (c : Client Server) (w : World) :
    List (List Char) → Logged (Client Server × Transcript)
  | [] => pure (c, {})
  | line :: rest => do
    let (c, first) ← c.replayLine w line
    let (c, later) ← replayTexts c w rest
    pure (c, first ++ later)

theorem replayLine_concat (c : Client Server) (w : World) (line : List Char) :
    c.replayLine w (line ++ ['\n']) = c.replayLine w line := by
  rw [replayLine, trimBlank_concat line (by decide), replayLine]

theorem replayLines_cons (c : Client Server) (w : World) (line : List Char)
    (rest : List (List UInt8)) :
    c.replayLines w (Utf8.encode line :: rest) = (do
      let (c, first) ← c.replayLine w line
      let (c, later) ← c.replayLines w rest
      pure (c, first ++ later)) := by
  rw [replayLines, Utf8.decode?_eq_some_iff.mpr rfl]

/-- To replay the encoding of a text is to replay its lines. -/
theorem replay_encode (c : Client Server) (w : World) (text : List Char) :
    c.replay w (Utf8.encode text) = c.replayTexts w (text.splitOn '\n') := by
  by_cases hmem : '\n' ∈ text
  · obtain ⟨line, rest, htext, hline⟩ := List.eq_append_cons_of_mem hmem
    have ih (c : Client Server) := replay_encode c w rest
    have hbytes : Utf8.encode (line ++ '\n' :: rest) =
        Utf8.encode line ++ 0x0A :: Utf8.encode rest := Utf8.encode_append line ('\n' :: rest)
    have hfirst : Utf8.encode line ++ [0x0A] = Utf8.encode (line ++ ['\n']) :=
      (Utf8.encode_append line ['\n']).symm
    rw [htext, List.splitOn_append_cons_self, List.splitOn_eq_singleton hline, replay, hbytes,
      inputLines_append (mt Utf8.lineFeed_mem_encode.mp hline), hfirst, replayLines_cons,
      replayLine_concat]
    simp only [replay] at ih
    simp only [ih, List.singleton_append, replayTexts]
  · rw [List.splitOn_eq_singleton hmem, replay]
    cases text with
    | nil => rfl
    | cons d ds =>
      have hne : Utf8.encode (d :: ds) ≠ [] := by
        rw [Utf8.encode, List.flatMap_cons]
        exact List.append_ne_nil_of_left_ne_nil String.utf8EncodeChar_ne_nil _
      rw [inputLines_of_not_mem (mt Utf8.lineFeed_mem_encode.mp hmem) hne, replayLines_cons]
      rfl
termination_by text.length
decreasing_by
  rw [htext, List.length_append, List.length_cons]
  omega

end Client

end EditorSession
