import EditorSession.Proofs.Json.Reading
import EditorSession.Proofs.Messages.Envelopes

/-! Which lines are answered.

A line is answered exactly if it is a message with an id, and whether it has a method makes no
difference (`Client.replayLine_answers_iff`). A response has an id and no method. In print it is
read as a message (`Response.ofLine?_line`), and so it is answered in its turn
(`Client.value_replayLine_answer`). -/

namespace EditorSession

/-! ### Responses as messages -/

theorem Json.valueWithin_encode_id {fuel depth : Nat} {id : MessageId} {rest : List Char}
    (hid : MessageId.decode? id.encode = some id) (hrest : EndsNumeral rest) :
    valueWithin (fuel + 1) depth (id.encode.write ++ rest) = some (id.encode, rest) := by
  cases id with
  | number n =>
    rw [MessageId.encode, MessageId.decode?] at hid
    split at hid
    · next hn => exact valueWithin_writeInt hn.1 hn.2 hrest
    · cases hid
  | text s => exact valueWithin_escape s rest
  | null => rfl

namespace Message

variable {acc acc' : List (String × Json)} {key : String} {value rest : List Char}

theorem readMembers_more (hmember : readMember? acc key value = some (acc', ',' :: rest))
    (fuel : Nat) :
    readMembers (fuel + 1) acc (Json.escape key ++ ':' :: value) = readMembers fuel acc' rest := by
  rw [readMembers_succ, Json.key?_escape]
  simp only [hmember]
  rfl

theorem readMembers_last (hmember : readMember? acc key value = some (acc', '\x7d' :: rest))
    (fuel : Nat) :
    readMembers (fuel + 1) acc (Json.escape key ++ ':' :: value) = some (.members acc', rest) := by
  rw [readMembers_succ, Json.key?_escape]
  simp only [hmember]
  rfl

theorem readMember?_of_key (hkey : key ∈ keys) (hnew : Json.member? key acc = none) {v : Json}
    (hvalue : Json.value? (Json.maxDepth - 1) value = some (v, rest)) :
    readMember? acc key value = some (acc ++ [(key, v)], rest) := by
  rw [readMember?, if_pos hkey, hnew, hvalue]
  rfl

theorem readMember?_of_not_key (hkey : key ∉ keys) (hvalue : Json.skip? value = some rest) :
    readMember? acc key value = some (acc, rest) := by
  rw [readMember?, if_neg hkey, hvalue]
  rfl

theorem readRecord?_escape (key : String) (more : List Char) :
    readRecord? ('\x7b' :: (Json.escape key ++ more)) =
      readMembers (Json.escape key ++ more).length [] (Json.escape key ++ more) := by
  rw [Json.escape_append]
  rfl

end Message

namespace Response

/-- The member that says what a response says. -/
def outcome (r : Response) : String × Json :=
  match r.reply with
  | .shown success => ("result", .obj [("success", .bool success)])
  | .methodNotFound => ("error", errorObject (-32601) "Method not found")

theorem line_eq (r : Response) :
    r.line = '\x7b' :: (Json.escape "jsonrpc" ++ ':' :: (Json.escape "2.0" ++
      ',' :: (Json.escape r.outcome.1 ++ ':' :: (r.outcome.2.write ++
        ',' :: (Json.escape "id" ++ ':' :: (r.id.encode.write ++ ['\x7d'])))))) := by
  have hencode : r.encode =
      .obj [("jsonrpc", .str Message.version), r.outcome, ("id", r.id.encode)] := rfl
  rw [line, hencode]
  obtain ⟨key, value⟩ := r.outcome
  simp [Json.write, Json.writeMembers, Message.version]

theorem outcome_not_key (r : Response) : r.outcome.1 ∉ Message.keys := by
  obtain ⟨id, reply⟩ := r
  cases reply with
  | shown success => exact (by decide : "result" ∉ Message.keys)
  | methodNotFound => exact (by decide : "error" ∉ Message.keys)

theorem skip?_outcome (r : Response) (rest : List Char) :
    Json.skip? (r.outcome.2.write ++ ',' :: rest) = some (',' :: rest) := by
  obtain ⟨id, reply⟩ := r
  cases reply with
  | shown success => cases success <;> rfl
  | methodNotFound => rfl

theorem trimBlank_line (r : Response) : trimBlank r.line = r.line := by
  obtain ⟨inner, hline⟩ : ∃ inner, r.line = '\x7b' :: (inner ++ ['\x7d']) := by
    exact ⟨Json.writeMembers _, rfl⟩
  rw [hline]
  simp [trimBlank, isBlank]

/-- Of the members of a response two are those of a message. -/
theorem readRecord?_line (r : Response) (hid : MessageId.decode? r.id.encode = some r.id) :
    Message.readRecord? r.line =
      some (.members [("jsonrpc", .str "2.0"), ("id", r.id.encode)], []) := by
  have hversion (rest : List Char) :
      Message.readMember? [] "jsonrpc" (Json.escape "2.0" ++ rest) =
        some ([("jsonrpc", .str "2.0")], rest) :=
    Message.readMember?_of_key (by decide) rfl (Json.valueWithin_escape "2.0" rest)
  have houtcome (acc : List (String × Json)) (rest : List Char) :
      Message.readMember? acc r.outcome.1 (r.outcome.2.write ++ ',' :: rest) =
        some (acc, ',' :: rest) :=
    Message.readMember?_of_not_key r.outcome_not_key (r.skip?_outcome rest)
  have hlast : Message.readMember? [("jsonrpc", .str "2.0")] "id"
      (r.id.encode.write ++ ['\x7d']) =
        some ([("jsonrpc", .str "2.0"), ("id", r.id.encode)], ['\x7d']) :=
    Message.readMember?_of_key (by decide) rfl
      (Json.valueWithin_encode_id hid (Json.endsNumeral_brace []))
  rw [line_eq, Message.readRecord?_escape]
  generalize hfuel : List.length _ = fuel
  have hle : 3 ≤ fuel := by
    rw [← hfuel]
    simp only [Json.escape, List.length_append, List.length_cons]
    omega
  obtain ⟨spare, rfl⟩ := Nat.exists_eq_add_of_le' hle
  rw [Message.readMembers_more (hversion _), Message.readMembers_more (houtcome _ _),
    Message.readMembers_last hlast]

/-- A response whose id a message can have is read as a message that has this id and an empty
method. -/
theorem ofLine?_line (r : Response) (hid : MessageId.decode? r.id.encode = some r.id) :
    Message.ofLine? r.line = some { method := "", params := none, id := some r.id } := by
  have hmessage : Message.ofRecord? (.members [("jsonrpc", .str "2.0"), ("id", r.id.encode)]) =
      some { method := "", params := none, id := some r.id } := by
    simp [Message.ofRecord?, Record.slot, Json.member?, Slot.required, Slot.withDefault,
      Slot.present, Json.string?, Message.version, hid]
  rw [Message.ofLine?, trimBlank_line, Message.read?, r.readRecord?_line hid]
  exact hmessage

end Response

namespace Transcript

theorem output_ne_nil_iff {t : Transcript} : t.output ≠ [] ↔ t.responses ≠ [] := by
  cases hr : t.responses with
  | nil => simp [output, hr]
  | cons r rs => simp [output, hr]

end Transcript

namespace Client

variable {Server : Type}

/-- No operation has an empty method, so a message with one changes nothing. With an id it is taken
for a request, and answered. -/
theorem value_dispatch_of_method_empty (c : Client Server) (w : World) {m : Message}
    (hm : m.method = "") :
    (c.dispatch w m).value = (c, m.id.map fun id => ⟨id, .methodNotFound⟩) := by
  have hother {method : String} (h : "" ≠ method) : m.method ≠ method := hm ▸ h
  cases hid : m.id with
  | none =>
    rw [value_dispatch_of_none hid, value_handleNotification_of_dropped
      (fun h => (hother (by decide) h).elim) (fun h => (hother (by decide) h).elim)]
    rfl
  | some id =>
    rw [value_dispatch_of_some hid, value_handleRequest_other (hother (by decide))]
    rfl

/-- A line is answered exactly if it is a message with an id. -/
theorem output_replayLine_ne_nil_iff (c : Client Server) (w : World) {line : List Char} :
    (c.replayLine w line).value.2.output ≠ [] ↔
      ∃ m, Message.ofLine? line = some m ∧ m.isRequest = true := by
  rw [Transcript.output_ne_nil_iff]
  cases hm : Message.ofLine? line with
  | none => simp [value_replayLine_of_none c w hm]
  | some m =>
    have hone : (∃ m', some m = some m' ∧ m'.isRequest = true) ↔ m.isRequest = true := by simp
    rw [value_replayLine_of_some c w hm, hone, ← c.isSome_response w m]
    cases (c.dispatch w m).value.2 <;> simp [Transcript.ofMessage]

theorem value_replayLine_line (c : Client Server) (w : World) (r : Response)
    (hid : MessageId.decode? r.id.encode = some r.id) :
    (c.replayLine w r.line).value =
      (c, { messages := 1, responses := [⟨r.id, .methodNotFound⟩] }) := by
  rw [c.value_replayLine_of_some w (r.ofLine?_line hid), c.value_dispatch_of_method_empty w rfl]
  rfl

/-- What one client answers is answered by any other one, and that answer again in the same way, so
that two of them do not come to an end. -/
theorem value_replayLine_answer {c : Client Server} {w : World} {line : List Char} {r : Response}
    (hr : r ∈ (c.replayLine w line).value.2.responses) (c' : Client Server) (w' : World) :
    (c'.replayLine w' r.line).value =
      (c', { messages := 1, responses := [⟨r.id, .methodNotFound⟩] }) := by
  apply value_replayLine_line
  cases hm : Message.ofLine? line with
  | none =>
    rw [value_replayLine_of_none c w hm] at hr
    cases hr
  | some m =>
    rw [value_replayLine_of_some c w hm, Transcript.ofMessage, Option.mem_toList] at hr
    have hid := c.map_id_dispatch w m
    rw [Option.mem_def.mp hr, Option.map_some] at hid
    exact Message.decode?_encode_of_ofLine? hm hid.symm

/-- Of the lines that hold an object, those are answered that are messages and have a member `id`.
A method is not asked for: a message without one changes nothing, and has an answer all the same if
it has an id. So any response is answered as if it were a request, whatever its id is, and whichever
state the client is in. -/
theorem replayLine_answers_iff (c : Client Server) (w : World) :
    (∀ line names, Json.ObjectText (trimBlank line) names →
      let replayed := (c.replayLine w line).value
      (replayed.2.output ≠ [] ↔ (Message.ofLine? line).isSome = true ∧ "id" ∈ names) ∧
      ("method" ∉ names → ∀ m, Message.ofLine? line = some m →
        (m.id.isSome = true ↔ "id" ∈ names) ∧
        replayed = (c, { messages := 1
                         responses := (m.id.map fun id => ⟨id, .methodNotFound⟩).toList }))) ∧
    ∀ r : Response, MessageId.decode? r.id.encode = some r.id →
      (c.replayLine w r.line).value =
        (c, { messages := 1, responses := [⟨r.id, .methodNotFound⟩] }) := by
  refine ⟨fun line names hline => ⟨?_, fun hmethod m hm => ?_⟩, fun r hid => ?_⟩
  · rw [c.output_replayLine_ne_nil_iff w, Option.isSome_iff_exists, exists_and_right.symm]
    refine exists_congr fun m => and_congr_right fun hm => ?_
    exact (Message.read?_objectText hline hm).1
  · obtain ⟨hid, hempty⟩ := Message.read?_objectText hline hm
    refine ⟨hid, ?_⟩
    rw [c.value_replayLine_of_some w hm, c.value_dispatch_of_method_empty w (hempty hmethod)]
    rfl
  · exact c.value_replayLine_line w r hid

/-- A response that is no text of a client's own is answered, though it has no method. -/
theorem answers_response :
    let c : Client Unit := {}
    let w : World := { cwd := .ofString "/", disk := ⟨[]⟩ }
    let line := " \x7b\"jsonrpc\":\"2.0\", \"id\":7, \"result\":[1e999]\x7d\r".toList
    let names := ["jsonrpc", "id", "result"]
    let replayed := (c.replayLine w line).value
    Json.ObjectText (trimBlank line) names ∧
    ¬(replayed.2.output ≠ [] ↔
      (Message.ofLine? line).isSome = true ∧ "method" ∈ names ∧ "id" ∈ names) ∧
    replayed.2.responses = [⟨.number 7, .methodNotFound⟩] := by
  intro c w line names replayed
  have hline : Json.ObjectText (trimBlank line) names := by
    refine .members rfl (.more rfl rfl rfl (.more rfl rfl rfl (.last rfl rfl rfl))) rfl
  have hresponses : replayed.2.responses = [⟨.number 7, .methodNotFound⟩] := by decide +kernel
  refine ⟨hline, fun h => ?_, hresponses⟩
  have houtput : replayed.2.output ≠ [] := by
    rw [Transcript.output_ne_nil_iff, hresponses]
    exact List.cons_ne_nil _ _
  exact absurd (h.mp houtput).2.1 (by decide)

end Client

end EditorSession
