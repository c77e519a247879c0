import EditorSession.Proofs.Messages.Replay
import Mathlib.Data.List.Induction

/-! Lines of an input that are no messages.

An input is put together from lines with `joinLines`. A line of text is replayed in front of what
the other lines give (`Client.value_replay_joinLines_cons`), and a line that is not UTF-8 ends the
replay (`Client.value_replay_joinLines_of_not_text`). So a malformed line that is put into an input
counts and does nothing else, exactly if all lines up to it can be read as text
(`Client.replay_insert_iff`). -/

namespace EditorSession

/-- Lines put together, with a line feed between each two. -/
def joinLines (lines : List (List UInt8)) : List UInt8 := [0x0A].intercalate lines

theorem joinLines_cons_cons (line next : List UInt8) (rest : List (List UInt8)) :
    joinLines (line :: next :: rest) = line ++ 0x0A :: joinLines (next :: rest) := by
  rw [joinLines, List.intercalate_cons_cons, List.append_assoc]
  rfl

/-- Either all lines are texts, or there is a first one that is none. -/
theorem texts_or_bad (lines : List (List UInt8)) :
    (∃ texts : List (List Char), lines = texts.map Utf8.encode) ∨
      ∃ (texts : List (List Char)) (bad : List UInt8) (rest : List (List UInt8)),
        lines = texts.map Utf8.encode ++ bad :: rest ∧ ∀ text, bad ≠ Utf8.encode text := by
  induction lines with
  | nil => exact .inl ⟨[], rfl⟩
  | cons line lines ih =>
    by_cases hline : ∃ text, line = Utf8.encode text
    · obtain ⟨text, rfl⟩ := hline
      rcases ih with ⟨texts, rfl⟩ | ⟨texts, bad, rest, rfl, hbad⟩
      · exact .inl ⟨text :: texts, rfl⟩
      · exact .inr ⟨text :: texts, bad, rest, rfl, hbad⟩
    · exact .inr ⟨[], line, lines, rfl, not_exists.mp hline⟩

namespace Utf8

theorem find?_eq_none_iff {ps : List Piece} {index : Nat} :
    Fault.find? index ps = none ↔ ∃ cs, ps.mapM Piece.char? = some cs := by
  simp only [mapM_char?_eq_some_iff]
  induction ps generalizing index with
  | nil => simp [Fault.find?]
  | cons p ps ih =>
    cases p with
    | char c =>
      rw [Fault.find?, ih]
      constructor
      · rintro ⟨cs, rfl⟩
        exact ⟨c :: cs, rfl⟩
      · rintro ⟨cs, hcs⟩
        obtain ⟨d, ds, rfl, -, rfl⟩ := List.map_eq_cons_iff.mp hcs.symm
        exact ⟨ds, rfl⟩
    | broken bytes | cut bytes =>
      refine ⟨nofun, ?_⟩
      rintro ⟨cs, hcs⟩
      obtain ⟨d, ds, -, hd, -⟩ := List.map_eq_cons_iff.mp hcs.symm
      cases hd

/-- Bytes that are no text have a fault. -/
theorem exists_fault?_of_not_text {bytes : List UInt8} (h : ∀ text, bytes ≠ encode text) :
    ∃ fault, fault? bytes = some fault := by
  rw [← Option.isSome_iff_exists, ← Option.ne_none_iff_isSome]
  intro hnone
  obtain ⟨cs, hcs⟩ := find?_eq_none_iff.mp hnone
  exact h cs (decode?_eq_some_iff.mp hcs)

theorem decode?_of_not_text {bytes : List UInt8} (h : ∀ text, bytes ≠ encode text) :
    decode? bytes = none := by
  rw [Option.eq_none_iff_forall_ne_some]
  intro text htext
  exact h text (decode?_eq_some_iff.mp htext)

/-- A line feed at the end does not make a text of bytes that are none. -/
theorem not_text_concat_lineFeed {bytes : List UInt8} (h : ∀ text, bytes ≠ encode text)
    (text : List Char) : bytes ++ [0x0A] ≠ encode text := by
  intro heq
  cases text using List.reverseRecOn with
  | nil => exact List.append_ne_nil_of_right_ne_nil _ (List.cons_ne_nil _ _) heq
  | append_singleton front c =>
    have hlast : encode [c] = String.utf8EncodeChar c := List.append_nil _
    rw [encode_append, hlast] at heq
    -- the last byte of the text is one of its last character
    have hmem : 0x0A ∈ String.utf8EncodeChar c := by
      have hbyte : (encode front ++ String.utf8EncodeChar c).getLast? = some 0x0A := by
        rw [← heq, List.getLast?_concat]
      rw [List.getLast?_append_of_ne_nil _ String.utf8EncodeChar_ne_nil] at hbyte
      exact List.mem_of_getLast? hbyte
    obtain rfl := lineFeed_mem_encodeChar.mp hmem
    exact h front (List.append_inj_left' heq rfl)

end Utf8

namespace Transcript

theorem append_fault {t : Transcript} (ht : t.fault = none) (fault : Utf8.Fault) :
    t ++ { fault := some fault } = { t with fault := some fault } := by
  simp [append_eq, ht]

/-- A transcript in front counts the malformed lines of both. -/
theorem malformed_append (a b : Transcript) : (a ++ b).malformed = a.malformed + b.malformed := rfl

end Transcript

namespace Client

variable {Server : Type} (w : World)

/-- To replay a line of text and then others is to replay the line and then the others. -/
theorem value_replay_joinLines_cons (c : Client Server) {text : List Char} (ht : '\n' ∉ text)
    (rest : List (List UInt8)) :
    (c.replay w (joinLines (Utf8.encode text :: rest))).value =
      let first := (c.replayLine w text).value
      let later := (first.1.replay w (joinLines rest)).value
      (later.1, first.2 ++ later.2) := by
  have hbytes := mt Utf8.lineFeed_mem_encode.mp ht
  cases rest with
  | nil =>
    have hone : joinLines [Utf8.encode text] = Utf8.encode text := List.intercalate_singleton
    rw [hone, replay_encode, List.splitOn_eq_singleton ht]
    rfl
  | cons next rest =>
    have hend : Utf8.encode text ++ [0x0A] = Utf8.encode (text ++ ['\n']) :=
      (Utf8.encode_append text ['\n']).symm
    rw [joinLines_cons_cons, replay, inputLines_append hbytes, hend, replayLines_cons,
      replayLine_concat]
    rfl

/-- A line that is not UTF-8 ends the replay. -/
theorem value_replay_joinLines_of_not_text (c : Client Server) {line : List UInt8}
    (hline : 0x0A ∉ line) (hn : ∀ text, line ≠ Utf8.encode text) (rest : List (List UInt8)) :
    ∃ fault, (c.replay w (joinLines (line :: rest))).value = (c, { fault := some fault }) := by
  have hstop {bytes : List UInt8} (hb : ∀ text, bytes ≠ Utf8.encode text)
      (later : List (List UInt8)) :
      ∃ fault, (c.replayLines w (bytes :: later)).value = (c, { fault := some fault }) := by
    obtain ⟨fault, hfault⟩ := Utf8.exists_fault?_of_not_text hb
    refine ⟨fault, ?_⟩
    rw [replayLines, Utf8.decode?_of_not_text hb, hfault]
    rfl
  cases rest with
  | nil =>
    have hone : joinLines [line] = line := List.intercalate_singleton
    rw [hone, replay, inputLines_of_not_mem hline (hn [])]
    exact hstop hn []
  | cons next rest =>
    rw [joinLines_cons_cons, replay, inputLines_append hline]
    exact hstop (Utf8.not_text_concat_lineFeed hn) _

/-- Lines of text are replayed in front of what follows them. -/
theorem value_replay_joinLines_append (c : Client Server) {texts : List (List Char)}
    (ht : ∀ text ∈ texts, '\n' ∉ text) (rest : List (List UInt8)) :
    (c.replay w (joinLines (texts.map Utf8.encode ++ rest))).value =
      let first := (c.replayTexts w texts).value
      let later := (first.1.replay w (joinLines rest)).value
      (later.1, first.2 ++ later.2) := by
  induction texts generalizing c with
  | nil =>
    change (c.replay w (joinLines rest)).value =
      ((c.replay w (joinLines rest)).value.1, {} ++ (c.replay w (joinLines rest)).value.2)
    rw [Transcript.empty_append]
  | cons text texts ih =>
    obtain ⟨hfirst, hrest⟩ := List.forall_mem_cons.mp ht
    rw [List.map_cons, List.cons_append, value_replay_joinLines_cons w c hfirst,
      value_replayTexts_cons]
    simp only [ih _ hrest, Transcript.append_assoc]

theorem value_replay_joinLines_texts (c : Client Server) {texts : List (List Char)}
    (ht : ∀ text ∈ texts, '\n' ∉ text) :
    (c.replay w (joinLines (texts.map Utf8.encode))).value = (c.replayTexts w texts).value := by
  have hall := c.value_replay_joinLines_append w ht []
  rw [List.append_nil] at hall
  rw [hall]
  exact congrArg (Prod.mk _) (Transcript.append_empty _)

/-- Up to the first line that is not UTF-8 all is replayed, and nothing after it is. -/
theorem value_replay_joinLines_fault (c : Client Server) {texts : List (List Char)}
    {bad : List UInt8} (ht : ∀ text ∈ texts, '\n' ∉ text) (hline : 0x0A ∉ bad)
    (hbad : ∀ text, bad ≠ Utf8.encode text) (rest : List (List UInt8)) :
    ∃ fault, (c.replay w (joinLines (texts.map Utf8.encode ++ bad :: rest))).value =
      let first := (c.replay w (joinLines (texts.map Utf8.encode))).value
      (first.1, { first.2 with fault := some fault }) := by
  obtain ⟨fault, hfault⟩ :=
    (c.replayTexts w texts).value.1.value_replay_joinLines_of_not_text w hline hbad rest
  refine ⟨fault, ?_⟩
  have hnone : (c.replayTexts w texts).value.2.fault = none := by rw [value_replayTexts]
  rw [c.value_replay_joinLines_append w ht, c.value_replay_joinLines_texts w ht]
  simp only [hfault, Transcript.append_fault hnone]

theorem malformed_replay_fault (c : Client Server) {texts : List (List Char)} {bad : List UInt8}
    (ht : ∀ text ∈ texts, '\n' ∉ text) (hline : 0x0A ∉ bad) (hbad : ∀ text, bad ≠ Utf8.encode text)
    (rest : List (List UInt8)) :
    (c.replay w (joinLines (texts.map Utf8.encode ++ bad :: rest))).value.2.malformed =
      (c.replay w (joinLines (texts.map Utf8.encode))).value.2.malformed := by
  obtain ⟨fault, hfault⟩ := c.value_replay_joinLines_fault w ht hline hbad rest
  rw [hfault]

/-- What a malformed line is to do where it is put into an input: it is counted, and all else is as
it would be without it. -/
structure CountsOnly (whole more : Client Server × Transcript) : Prop where
  client : more.1 = whole.1
  output : more.2.output = whole.2.output
  messages : more.2.messages = whole.2.messages
  responses : more.2.responses.length = whole.2.responses.length
  malformed : more.2.malformed = whole.2.malformed + 1
  fault : more.2.fault = whole.2.fault

/-- A malformed line of text counts and does nothing else, if the lines before it are texts. -/
theorem countsOnly_of_texts (c : Client Server) {texts : List (List Char)} {line : List Char}
    (htexts : ∀ text ∈ texts, '\n' ∉ text) (hline : '\n' ∉ line)
    (hm : Message.isMalformed line = true) (after : List (List UInt8)) :
    CountsOnly (c.replay w (joinLines (texts.map Utf8.encode ++ after))).value
      (c.replay w (joinLines (texts.map Utf8.encode ++ Utf8.encode line :: after))).value := by
  have hnone : Message.ofLine? line = none := by
    rw [Message.isMalformed, Bool.and_eq_true, Option.isNone_iff_eq_none] at hm
    exact hm.2
  rw [c.value_replay_joinLines_append w htexts, c.value_replay_joinLines_append w htexts]
  simp only [value_replay_joinLines_cons w _ hline, value_replayLine_of_none _ w hnone, hm, if_true]
  constructor
  case client => rfl
  case output => simp [Transcript.output, Transcript.append_eq]
  case messages => simp [Transcript.append_eq]
  case responses => simp [Transcript.append_eq]
  case malformed =>
    simp only [Transcript.malformed_append]
    omega
  case fault => simp [Transcript.append_eq]

/-- After a line that is not text no line is counted. -/
theorem not_countsOnly_of_bad_before (c : Client Server) {texts : List (List Char)}
    {bad : List UInt8} (ht : ∀ text ∈ texts, '\n' ∉ text) (hline : 0x0A ∉ bad)
    (hbad : ∀ text, bad ≠ Utf8.encode text) (rest rest' : List (List UInt8)) :
    ¬CountsOnly (c.replay w (joinLines (texts.map Utf8.encode ++ bad :: rest))).value
      (c.replay w (joinLines (texts.map Utf8.encode ++ bad :: rest'))).value := by
  intro h
  have hcount := h.malformed
  rw [c.malformed_replay_fault w ht hline hbad, c.malformed_replay_fault w ht hline hbad] at hcount
  omega

/-- A line that is not text is not counted, nor is a line after it. -/
theorem not_countsOnly_of_bad_line (c : Client Server) {texts : List (List Char)}
    {bad : List UInt8} (ht : ∀ text ∈ texts, '\n' ∉ text) (hline : 0x0A ∉ bad)
    (hbad : ∀ text, bad ≠ Utf8.encode text) (after : List (List UInt8)) :
    ¬CountsOnly (c.replay w (joinLines (texts.map Utf8.encode ++ after))).value
      (c.replay w (joinLines (texts.map Utf8.encode ++ bad :: after))).value := by
  intro h
  have hcount := h.malformed
  rw [c.malformed_replay_fault w ht hline hbad, c.value_replay_joinLines_texts w ht,
    c.value_replay_joinLines_append w ht, Transcript.malformed_append] at hcount
  omega

/-- A line that is neither blank nor a message, put between the lines of an input, counts as
malformed and does nothing else, exactly if it is text and the lines before it are. The first line
that is not text ends the replay: all before it stands, and nothing after it is looked at. -/
theorem replay_insert_iff (c : Client Server) (w : World) (before after : List (List UInt8))
    (line : List UInt8) (hlines : ∀ l ∈ before ++ line :: after, 0x0A ∉ l)
    (hline : ∀ text, line = Utf8.encode text → Message.isMalformed text = true) :
    let whole := (c.replay w (joinLines (before ++ after))).value
    let more := (c.replay w (joinLines (before ++ line :: after))).value
    (CountsOnly whole more ↔ ∀ l ∈ before ++ [line], ∃ text, l = Utf8.encode text) ∧
    ∀ (texts : List (List Char)) (bad : List UInt8) (rest : List (List UInt8)),
      before ++ line :: after = texts.map Utf8.encode ++ bad :: rest →
      (∀ text, bad ≠ Utf8.encode text) →
      ∃ fault, more =
        let first := (c.replay w (joinLines (texts.map Utf8.encode))).value
        (first.1, { first.2 with fault := some fault }) := by
  intro whole more
  have hplain {texts : List (List Char)} {rest : List (List UInt8)}
      (h : ∀ l ∈ texts.map Utf8.encode ++ rest, 0x0A ∉ l) : ∀ text ∈ texts, '\n' ∉ text := by
    intro text hmem
    have hl := h _ (List.mem_append_left _ (List.mem_map_of_mem hmem))
    exact mt Utf8.lineFeed_mem_encode.mpr hl
  refine ⟨?_, fun texts bad rest heq hbad => ?_⟩
  · rcases texts_or_bad before with ⟨texts, rfl⟩ | ⟨texts, bad, rest, rfl, hbad⟩
    · have ht := hplain hlines
      have hfeed := hlines line (List.mem_append_right _ List.mem_cons_self)
      by_cases htext : ∃ text, line = Utf8.encode text
      · obtain ⟨text, rfl⟩ := htext
        refine iff_of_true ?_ fun l hl => ?_
        · exact c.countsOnly_of_texts w ht (mt Utf8.lineFeed_mem_encode.mpr hfeed)
            (hline text rfl) after
        · rw [← List.map_singleton, ← List.map_append] at hl
          obtain ⟨text', -, rfl⟩ := List.mem_map.mp hl
          exact ⟨text', rfl⟩
      · refine iff_of_false ?_ fun hall => ?_
        · exact c.not_countsOnly_of_bad_line w ht hfeed (not_exists.mp htext) after
        · exact htext (hall line (List.mem_append_right _ List.mem_cons_self))
    · have hmem : bad ∈ texts.map Utf8.encode ++ bad :: rest :=
        List.mem_append_right _ List.mem_cons_self
      have hfeed := hlines bad (List.mem_append_left _ hmem)
      refine iff_of_false ?_ fun hall => ?_
      · have hnot := c.not_countsOnly_of_bad_before w
          (hplain fun l hl => hlines l (List.mem_append_left _ hl)) hfeed hbad (rest ++ after)
          (rest ++ line :: after)
        simpa only [whole, more, List.append_assoc, List.cons_append] using hnot
      · obtain ⟨text, htext⟩ := hall bad (List.mem_append_left _ hmem)
        exact hbad text htext
  · have hmore : more = (c.replay w (joinLines (texts.map Utf8.encode ++ bad :: rest))).value := by
      rw [← heq]
    rw [hmore]
    rw [heq] at hlines
    have hfeed := hlines bad (List.mem_append_right _ List.mem_cons_self)
    exact c.value_replay_joinLines_fault w (hplain hlines) hfeed hbad rest

/-- A word between a request and a line that is not text. -/
theorem replay_insert_iff_word :
    let c : Client Unit := {}
    let w : World := { cwd := .ofString "/", disk := ⟨[]⟩ }
    let before := [Utf8.ofString "\x7b\"jsonrpc\":\"2.0\",\"id\":1,\"method\":\"m\"\x7d\r", []]
    let line := Utf8.ofString " word"
    let after : List (List UInt8) := [[0xFF], []]
    let whole := (c.replay w (joinLines (before ++ after))).value
    let more := (c.replay w (joinLines (before ++ line :: after))).value
    (∀ l ∈ before ++ line :: after, 0x0A ∉ l) ∧
    (∀ text, line = Utf8.encode text → Message.isMalformed text = true) ∧
    (CountsOnly whole more ↔ ∀ l ∈ before ++ [line], ∃ text, l = Utf8.encode text) ∧
    ∀ (texts : List (List Char)) (bad : List UInt8) (rest : List (List UInt8)),
      before ++ line :: after = texts.map Utf8.encode ++ bad :: rest →
      (∀ text, bad ≠ Utf8.encode text) →
      ∃ fault, more =
        let first := (c.replay w (joinLines (texts.map Utf8.encode))).value
        (first.1, { first.2 with fault := some fault }) := by
  intro c w before line after whole more
  have hlines : ∀ l ∈ before ++ line :: after, 0x0A ∉ l := by decide +kernel
  have hline : ∀ text, line = Utf8.encode text → Message.isMalformed text = true := by
    intro text htext
    obtain rfl : [' ', 'w', 'o', 'r', 'd'] = text :=
      Option.some.inj ((by decide +kernel : some _ = Utf8.decode? line).trans
        (Utf8.decode?_eq_some_iff.mpr htext))
    decide +kernel
  exact ⟨hlines, hline, replay_insert_iff c w before after line hlines hline⟩

/-- A byte that begins no character is a line of its own, and keeps the request after it from being
answered. -/
theorem not_countsOnly_byte :
    let c : Client Unit := {}
    let w : World := { cwd := .ofString "/", disk := ⟨[]⟩ }
    let after := [Utf8.ofString "\x7b\"jsonrpc\":\"2.0\",\"id\":1,\"method\":\"m\"\x7d"]
    let whole := (c.replay w (joinLines after)).value
    let more := (c.replay w (joinLines ([0xFF] :: after))).value
    (∀ text, [0xFF] ≠ Utf8.encode text) ∧ ¬CountsOnly whole more ∧
      whole.2.responses = [⟨.number 1, .methodNotFound⟩] ∧ more.2.responses = [] ∧
      whole.2.malformed = 0 ∧ more.2.malformed = 0 := by
  intro c w after whole more
  have hnone : ∀ text, [0xFF] ≠ Utf8.encode text := by
    intro text htext
    have hdecode : Utf8.decode? [0xFF] = none := by decide +kernel
    cases hdecode.symm.trans (Utf8.decode?_eq_some_iff.mpr htext)
  have hwhole : whole.2.malformed = 0 := by decide +kernel
  have hmore : more.2.malformed = 0 := by decide +kernel
  refine ⟨hnone, fun h => ?_, by decide +kernel, by decide +kernel, hwhole, hmore⟩
  have hcount := h.malformed
  rw [hwhole, hmore] at hcount
  cases hcount

end Client

end EditorSession
