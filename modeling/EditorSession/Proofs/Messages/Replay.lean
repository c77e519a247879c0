import EditorSession.Proofs.Messages.Lines
import EditorSession.Proofs.Messages.Replies

/-! What replaying a text gives.

The lines that are messages are dispatched in order (`Client.afterMessages`), and the requests among
them are answered in order (`Client.responsesTo`); the other lines are counted or passed over. So
one pass over the lines of a text gives its transcript (`Client.value_replayTexts`), and the
transcript of two texts is that of the one and then of the other (`Client.value_replay_append`). -/

namespace EditorSession

namespace Message

/-- Whether a message asks for a response. -/
def isRequest (m : Message) : Bool := m.id.isSome

/-- The message that a line stands for, if it is one. -/
def ofLine? (line : List Char) : Option Message := read? (trimBlank line)

/-- A line is malformed if it is not blank and no message. -/
def isMalformed (line : List Char) : Bool := trimBlank line ≠ [] && (ofLine? line).isNone

theorem ofLine?_of_blank {line : List Char} (h : trimBlank line = []) : ofLine? line = none := by
  rw [ofLine?, h]
  rfl

/-- The lines that are not blank are messages or malformed. -/
theorem length_filterMap_add_countP (lines : List (List Char)) :
    (lines.filterMap ofLine?).length + lines.countP isMalformed =
      (lines.filter fun line => trimBlank line ≠ []).length := by
  induction lines with
  | nil => rfl
  | cons line lines ih =>
    by_cases hb : trimBlank line = []
    · have hm : isMalformed line = false := by simp [isMalformed, hb]
      rw [List.filterMap_cons_none (ofLine?_of_blank hb), List.countP_cons_of_neg (by simp [hm]),
        List.filter_cons_of_neg (by simpa using hb), ih]
    · rw [List.filter_cons_of_pos (by simpa using hb), List.length_cons, ← ih]
      cases hl : ofLine? line with
      | some m =>
        have hm : isMalformed line = false := by simp [isMalformed, hl]
        rw [List.filterMap_cons_some hl, List.countP_cons_of_neg (by simp [hm]), List.length_cons]
        omega
      | none =>
        have hm : isMalformed line = true := by simp [isMalformed, hl, hb]
        rw [List.filterMap_cons_none hl, List.countP_cons_of_pos hm]
        omega

end Message

namespace Client

variable {Server : Type}

/-! ### Messages in order -/

/-- The client after messages. -/
def afterMessages (c : Client Server) (w : World) (ms : List Message) : Client Server :=
  ms.foldl (fun c m => (c.dispatch w m).value.1) c

/-- The responses to messages. -/
def responsesTo (c : Client Server) (w : World) : List Message → List Response
  | [] => []
  | m :: ms => (c.dispatch w m).value.2.toList ++ responsesTo (c.dispatch w m).value.1 w ms

theorem isSome_response (c : Client Server) (w : World) (m : Message) :
    (c.dispatch w m).value.2.isSome = m.isRequest := by
  rw [Message.isRequest, ← c.map_id_dispatch w m, Option.isSome_map]

theorem responsesTo_append (c : Client Server) (w : World) (ms later : List Message) :
    c.responsesTo w (ms ++ later) =
      c.responsesTo w ms ++ (c.afterMessages w ms).responsesTo w later := by
  induction ms generalizing c with
  | nil => rfl
  | cons m ms ih =>
    rw [List.cons_append, responsesTo, responsesTo, ih, List.append_assoc]
    rfl

theorem length_responsesTo (c : Client Server) (w : World) (ms : List Message) :
    (c.responsesTo w ms).length = (ms.filter Message.isRequest).length := by
  induction ms generalizing c with
  | nil => rfl
  | cons m ms ih =>
    rw [responsesTo, List.length_append, ih, List.filter_cons, ← c.isSome_response w m]
    cases (c.dispatch w m).value.2 with
    | none => simp
    | some r => simp [Nat.add_comm]

/-- The response at a place answers the request at this place among the requests. -/
theorem getElem?_responsesTo (c : Client Server) (w : World) (before later : List Message)
    {m : Message} (hm : m.isRequest = true) :
    (c.responsesTo w (before ++ m :: later))[(before.filter Message.isRequest).length]? =
      ((c.afterMessages w before).dispatch w m).value.2 := by
  have hsome : (((c.afterMessages w before).dispatch w m).value.2).isSome = true := by
    rw [isSome_response, hm]
  obtain ⟨r, hr⟩ := Option.isSome_iff_exists.mp hsome
  rw [responsesTo_append, ← c.length_responsesTo w before,
    List.getElem?_append_right (Nat.le_refl _), Nat.sub_self, responsesTo, hr]
  rfl

/-! ### Lines in order -/

theorem value_replayLine_of_some (c : Client Server) (w : World) {line : List Char} {m : Message}
    (hm : Message.ofLine? line = some m) :
    (c.replayLine w line).value =
      ((c.dispatch w m).value.1, .ofMessage (c.dispatch w m).value.2) := by
  unfold replayLine
  split
  · next hb => cases (Message.ofLine?_of_blank hb).symm.trans hm
  · rw [show Message.read? (trimBlank line) = some m from hm]
    rfl

theorem value_replayLine_of_none (c : Client Server) (w : World) {line : List Char}
    (hm : Message.ofLine? line = none) :
    (c.replayLine w line).value =
      (c, { malformed := if Message.isMalformed line then 1 else 0 }) := by
  unfold replayLine
  split
  · next hb => simp [Message.isMalformed, hb]
  · next hb =>
    rw [show Message.read? (trimBlank line) = none from hm]
    have hne : trimBlank line ≠ [] := fun h => hb h
    have hmalformed : Message.isMalformed line = true := by simp [Message.isMalformed, hne, hm]
    rw [hmalformed]
    rfl

theorem value_replayTexts_cons (c : Client Server) (w : World) (line : List Char)
    (rest : List (List Char)) :
    (c.replayTexts w (line :: rest)).value =
      let first := (c.replayLine w line).value
      let later := (first.1.replayTexts w rest).value
      (later.1, first.2 ++ later.2) := rfl

/-- Replaying lines dispatches those that are messages, and counts the malformed ones. -/
theorem value_replayTexts (c : Client Server) (w : World) (lines : List (List Char)) :
    (c.replayTexts w lines).value =
      let messages := lines.filterMap Message.ofLine?
      (c.afterMessages w messages,
        { messages := messages.length, malformed := lines.countP Message.isMalformed
          responses := c.responsesTo w messages }) := by
  induction lines generalizing c with
  | nil => rfl
  | cons line lines ih =>
    rw [value_replayTexts_cons]
    cases hl : Message.ofLine? line with
    | some m =>
      have hm : Message.isMalformed line = false := by simp [Message.isMalformed, hl]
      rw [value_replayLine_of_some c w hl, List.filterMap_cons_some hl,
        List.countP_cons_of_neg (by simp [hm])]
      simp only [ih]
      simp [Transcript.append_eq, Transcript.ofMessage, afterMessages, responsesTo, Nat.add_comm]
    | none =>
      rw [value_replayLine_of_none c w hl, List.filterMap_cons_none hl]
      simp only [ih]
      simp [Transcript.append_eq, List.countP_cons, Nat.add_comm]

theorem value_replayTexts_append (c : Client Server) (w : World) (lines later : List (List Char)) :
    (c.replayTexts w (lines ++ later)).value =
      let first := (c.replayTexts w lines).value
      let second := (first.1.replayTexts w later).value
      (second.1, first.2 ++ second.2) := by
  induction lines generalizing c with
  | nil =>
    change (c.replayTexts w later).value =
      ((c.replayTexts w later).value.1, {} ++ (c.replayTexts w later).value.2)
    rw [Transcript.empty_append]
  | cons line lines ih =>
    rw [List.cons_append, value_replayTexts_cons, value_replayTexts_cons]
    simp only [ih, Transcript.append_assoc]

/-- A replay of a text is a replay of its lines. -/
theorem value_replay_ofString (c : Client Server) (w : World) (text : String) :
    (c.replay w (Utf8.ofString text)).value =
      (c.replayTexts w (text.toList.splitOn '\n')).value := by
  rw [Utf8.ofString, replay_encode]

/-- To replay two texts with a line feed between them is to replay the one and then the other. -/
theorem value_replay_append (c : Client Server) (w : World) (text later : String) :
    (c.replay w (Utf8.ofString (text ++ "\n" ++ later))).value =
      let first := (c.replay w (Utf8.ofString text)).value
      let second := (first.1.replay w (Utf8.ofString later)).value
      (second.1, first.2 ++ second.2) := by
  have hjoin : (text ++ "\n" ++ later).toList = text.toList ++ '\n' :: later.toList := by simp
  simp only [value_replay_ofString]
  rw [hjoin, List.splitOn_append_cons_self, value_replayTexts_append]

end Client

end EditorSession
