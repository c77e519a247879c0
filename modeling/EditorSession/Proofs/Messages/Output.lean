import EditorSession.Proofs.Json.Printing
import EditorSession.Proofs.Messages.Answers

/-! What stands in the output of a replay.

`Response.StandsIn` says what a line has to be read as to be the answer to a request: an object with
the version, the id and the outcome, and nothing else. Every response is written like that on a line
of its own, if its id is that of a message that was read (`Response.standsIn_line`), and no other
responses are written. So the lines of the output answer the requests of the input, in order
(`Client.replay_text`). -/

namespace EditorSession

namespace Response

/-- What the line of a response is read as: an object with the version of the protocol, the id and
what the response says, in the order of the keys. -/
def object (r : Response) : Json :=
  match r.reply with
  | .shown success =>
    .obj [("id", r.id.encode), ("jsonrpc", .str "2.0"), ("result", .obj [("success", .bool success)])]
  | .methodNotFound =>
    .obj [("error", .obj [("code", .int (-32601)), ("message", .str "Method not found")]),
      ("id", r.id.encode), ("jsonrpc", .str "2.0")]

/-- A line is read as a response. -/
def StandsIn (r : Response) (line : List Char) : Prop :=
  Json.read? Json.maxDepth (String.ofList line) = some r.object

/-- The members of a response are put in the order of their keys as they are read. -/
theorem object_eq (r : Response) :
    r.object = .obj (Json.insertMember "id" r.id.encode
      (Json.insertMember r.outcome.1 r.outcome.2 [("jsonrpc", .str "2.0")])) := by
  have hid : "id" < "jsonrpc" := by decide
  obtain ⟨id, reply⟩ := r
  cases reply with
  | shown success =>
    have hresult : ¬"result" < "jsonrpc" := by decide
    simp [object, outcome, Json.insertMember, hid, hresult]
  | methodNotFound =>
    have herror : "error" < "jsonrpc" := by decide
    have hfirst : ¬"id" < "error" := by decide
    simp [object, outcome, errorObject, Json.insertMember, hid, herror, hfirst]

/-- What a response says is read back, if the bound leaves the few steps that this takes. -/
theorem valueWithin_outcome (r : Response) (fuel depth : Nat) (rest : List Char) :
    Json.valueWithin (fuel + 4) (depth + 1) (r.outcome.2.write ++ ',' :: rest) =
      some (r.outcome.2, ',' :: rest) := by
  obtain ⟨id, reply⟩ := r
  cases reply with
  | shown success => cases success <;> rfl
  | methodNotFound => rfl

/-- A response whose id a message can have is read back. -/
theorem standsIn_line (r : Response) (hid : MessageId.decode? r.id.encode = some r.id) :
    r.StandsIn r.line := by
  have hvalue : Json.value? Json.maxDepth r.line = some (r.object, []) := by
    rw [Json.value?]
    generalize hfuel : Json.readBound r.line = fuel
    have hle : 8 ≤ fuel := by
      rw [← hfuel, line_eq, Json.readBound]
      simp only [Json.escape, List.length_append, List.length_cons]
      omega
    obtain ⟨spare, rfl⟩ := Nat.exists_eq_add_of_le' hle
    rw [line_eq, object_eq, Json.maxDepth, Json.valueWithin_brace,
      Json.membersWithin_more _ _ (Json.valueWithin_escape "2.0" _),
      Json.membersWithin_more _ _ (r.valueWithin_outcome _ _ _),
      Json.membersWithin_last _ _ (Json.valueWithin_encode_id hid (Json.endsNumeral_brace []))]
    rfl
  rw [StandsIn, Json.read?, String.toList_ofList, hvalue]
  rfl

theorem newline_not_mem_line (r : Response) : '\n' ∉ r.line :=
  (Json.plain_write r.encode).newline_not_mem

end Response

namespace Transcript

theorem splitOn_output (t : Transcript) :
    t.output.splitOn '\n' = t.responses.map Response.line ++ [[]] := by
  have hlines : t.output = (t.responses.map Response.line).flatMap (· ++ ['\n']) := by
    rw [output, List.flatMap_map]
  rw [hlines, splitOn_flatMap_newline]
  simpa using fun r _ => r.newline_not_mem_line

theorem getElem?_splitOn_output (t : Transcript) {n : Nat} {r : Response}
    (h : t.responses[n]? = some r) : (t.output.splitOn '\n')[n]? = some r.line := by
  have hmap : (t.responses.map Response.line)[n]? = some r.line := by
    rw [List.getElem?_map, h, Option.map_some]
  obtain ⟨hn, -⟩ := List.getElem?_eq_some_iff.mp hmap
  rw [splitOn_output, List.getElem?_append_left hn, hmap]

end Transcript

namespace Client

variable {Server : Type}

/-- A response has the id of a message. -/
theorem exists_of_mem_responsesTo {c : Client Server} {w : World} {ms : List Message}
    {r : Response} (hr : r ∈ c.responsesTo w ms) : ∃ m ∈ ms, m.id = some r.id := by
  induction ms generalizing c with
  | nil => cases hr
  | cons m ms ih =>
    rcases List.mem_append.mp hr with hfirst | hlater
    · have hid := c.map_id_dispatch w m
      rw [Option.mem_toList.mp hfirst] at hid
      exact ⟨m, List.mem_cons_self, hid.symm⟩
    · obtain ⟨m', hm', hid⟩ := ih hlater
      exact ⟨m', List.mem_cons_of_mem m hm', hid⟩

theorem standsIn_of_mem_responsesTo {c : Client Server} {w : World} {lines : List (List Char)}
    {r : Response} (hr : r ∈ c.responsesTo w (lines.filterMap Message.ofLine?)) :
    r.StandsIn r.line := by
  obtain ⟨m, hm, hid⟩ := exists_of_mem_responsesTo hr
  obtain ⟨line, -, hline⟩ := List.mem_filterMap.mp hm
  exact r.standsIn_line (Message.decode?_encode_of_ofLine? hline hid)

/-- What replaying a text leaves and writes. The client has dispatched the lines that are messages,
in order. Every line that is not blank counts as a message or as malformed. Each request is answered
on a line of its own, in the order of the requests, and with what its dispatch gave: the line is
read as an object with the id of the request and this outcome, and no line holds anything else. And
a text may be replayed in two parts, if it is cut at a line feed. -/
theorem replay_text (c : Client Server) (w : World) (text : String) :
    let lines := text.toList.splitOn '\n'
    let messages := lines.filterMap Message.ofLine?
    let replayed := (c.replay w (Utf8.ofString text)).value
    let t := replayed.2
    t.fault = none ∧
    replayed.1 = c.afterMessages w messages ∧
    t.messages = messages.length ∧
    t.messages + t.malformed = (lines.filter fun line => trimBlank line ≠ []).length ∧
    t.responses.length = (messages.filter Message.isRequest).length ∧
    (∀ before m later, messages = before ++ m :: later → m.isRequest = true → ∃ r line,
      t.responses[(before.filter Message.isRequest).length]? = some r ∧ m.id = some r.id ∧
      ((c.afterMessages w before).dispatch w m).value.2 = some r ∧
      (t.output.splitOn '\n')[(before.filter Message.isRequest).length]? = some line ∧
      r.StandsIn line) ∧
    t.output = t.responses.flatMap (fun r => r.line ++ ['\n']) ∧
    (∀ r ∈ t.responses, '\n' ∉ r.line ∧ r.StandsIn r.line) ∧
    t.output.splitOn '\n' = t.responses.map Response.line ++ [[]] ∧
    ∀ later : String,
      let second := (replayed.1.replay w (Utf8.ofString later)).value
      let both := (c.replay w (Utf8.ofString (text ++ "\n" ++ later))).value
      both.1 = second.1 ∧ both.2.output = t.output ++ second.2.output ∧
      both.2.messages = t.messages + second.2.messages ∧
      both.2.malformed = t.malformed + second.2.malformed ∧
      both.2.responses.length = t.responses.length + second.2.responses.length := by
  intro lines messages replayed t
  have hreplayed : replayed = (c.afterMessages w messages,
      { messages := messages.length, malformed := lines.countP Message.isMalformed
        responses := c.responsesTo w messages }) :=
    (c.value_replay_ofString w text).trans (c.value_replayTexts w lines)
  have ht : t = { messages := messages.length, malformed := lines.countP Message.isMalformed
                  responses := c.responsesTo w messages } := congrArg Prod.snd hreplayed
  have hstands : ∀ r ∈ t.responses, r.StandsIn r.line := by
    rw [ht]
    exact fun r => standsIn_of_mem_responsesTo
  refine ⟨by rw [ht], congrArg Prod.fst hreplayed, by rw [ht], ?_, ?_,
    fun before m later hm hr => ?_, rfl, fun r hr => ⟨r.newline_not_mem_line, hstands r hr⟩,
    t.splitOn_output, fun later => ?_⟩
  · rw [ht]
    exact Message.length_filterMap_add_countP lines
  · rw [ht]
    exact c.length_responsesTo w messages
  · have hat := c.getElem?_responsesTo w before later hr
    obtain ⟨r, hresponse⟩ := Option.isSome_iff_exists.mp
      (((c.afterMessages w before).isSome_response w m).trans hr)
    have hid := (c.afterMessages w before).map_id_dispatch w m
    rw [hresponse] at hat hid
    have hplace : t.responses[(before.filter Message.isRequest).length]? = some r := by
      rw [ht, hm]
      exact hat
    exact ⟨r, r.line, hplace, hid.symm, hresponse, t.getElem?_splitOn_output hplace,
      hstands r (List.mem_of_getElem? hplace)⟩
  · intro second both
    have hboth : both = (second.1, t ++ second.2) := c.value_replay_append w text later
    rw [hboth]
    exact ⟨rfl, Transcript.output_append t second.2, rfl, rfl, List.length_append⟩

/-- A line feed in an id is escaped. -/
example :
    let c : Client Unit := {}
    let w : World := { cwd := .ofString "/", disk := ⟨[]⟩ }
    let text := "\x7b\"jsonrpc\":\"2.0\", \"method\":\"m\", \"id\":\"a\\nb\"\x7d"
    String.ofList (c.replay w (Utf8.ofString text)).value.2.output =
      "\x7b\"jsonrpc\":\"2.0\",\"error\":\x7b\"code\":-32601,\"message\":\"Method not found\"\x7d,"
        ++ "\"id\":\"a\\nb\"\x7d\n" := by
  decide +kernel

end Client

end EditorSession
