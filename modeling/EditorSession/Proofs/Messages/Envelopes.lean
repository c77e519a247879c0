import EditorSession.Proofs.Json.Objects
import EditorSession.Proofs.Messages.Replay

/-! What members a message has.

A message is read from an object by looking at four of its members and passing over the others. So
it has an id exactly if the object has a member `id`, and its method is empty if there is no member
`method` (`Message.read?_objectText`). -/

namespace EditorSession

/-- An optional field is there exactly if the object has a member for it. -/
theorem Slot.isSome_of_present {α : Type} {decode : Json → Option α} {index : Nat} {key : String}
    {own : List (String × Json)} {a : Option α}
    (h : ((Record.members own).slot index key).present decode = some a) :
    a.isSome = (Json.member? key own).isSome := by
  rw [Record.slot] at h
  cases hv : Json.member? key own with
  | none =>
    rw [hv] at h
    cases h
    rfl
  | some v =>
    rw [hv] at h
    obtain ⟨b, -, rfl⟩ := Option.map_eq_some_iff.mp h
    rfl

theorem Slot.present_eq_some_some {α : Type} {decode : Json → Option α} {slot : Slot} {a : α}
    (h : slot.present decode = some (some a)) : ∃ j, slot = .given j ∧ decode j = some a := by
  cases slot with
  | missing | cutOff => cases h
  | given j =>
    obtain ⟨b, hb, heq⟩ := Option.map_eq_some_iff.mp h
    cases heq
    exact ⟨j, rfl, hb⟩

theorem MessageId.decode?_encode {j : Json} {id : MessageId} (h : decode? j = some id) :
    decode? id.encode = some id := by
  cases j with
  | int n =>
    rw [decode?] at h
    split at h
    · next hn =>
      cases h
      exact if_pos hn
    · cases h
  | str s | null =>
    cases h
    rfl
  | _ => cases h

namespace Message

/-- The members read so far with the one of this key and the value that the text goes on with, and
the text after it. -/
def readMember? (acc : List (String × Json)) (key : String) (cs : List Char) :
    Option (List (String × Json) × List Char) :=
  if key ∈ keys then
    if (Json.member? key acc).isSome then none
    else (Json.value? (Json.maxDepth - 1) cs).map fun (v, rest) => (acc ++ [(key, v)], rest)
  else (Json.skip? cs).map (acc, ·)

theorem readMembers_succ (fuel : Nat) (acc : List (String × Json)) (cs : List Char) :
    readMembers (fuel + 1) acc cs =
      match Json.key? cs with
      | none => none
      | some (key, value) =>
        match readMember? acc key value with
        | none => none
        | some (acc, after) =>
          match Json.skipSpace after with
          | ',' :: rest => readMembers fuel acc rest
          | '\x7d' :: rest => some (.members acc, rest)
          | _ => none := rfl

theorem readMember?_eq_some {acc acc' : List (String × Json)} {k : String} {cs rest : List Char}
    (h : readMember? acc k cs = some (acc', rest)) :
    Json.skip? cs = some rest ∧ ∀ key ∈ keys,
      ((Json.member? key acc').isSome = true ↔ (Json.member? key acc).isSome = true ∨ key = k) := by
  unfold readMember? at h
  split at h
  · split at h
    · cases h
    · obtain ⟨⟨v, after⟩, hv, heq⟩ := Option.map_eq_some_iff.mp h
      cases heq
      exact ⟨Json.skip?_of_value? hv, fun key _ => Json.isSome_member?_concat⟩
  · next hk =>
    obtain ⟨after, hv, heq⟩ := Option.map_eq_some_iff.mp h
    cases heq
    exact ⟨hv, fun key hin => (or_iff_left (ne_of_mem_of_not_mem hin hk)).symm⟩

theorem readMembers_eq_some {fuel : Nat} {acc : List (String × Json)} {cs rest : List Char}
    {r : Record} (h : readMembers fuel acc cs = some (r, rest)) :
    ∃ own names, r = .members own ∧ Json.Members cs names rest ∧ ∀ key ∈ keys,
      ((Json.member? key own).isSome = true ↔
        (Json.member? key acc).isSome = true ∨ key ∈ names) := by
  induction fuel generalizing acc cs with
  | zero => cases h
  | succ fuel ih =>
    rw [readMembers_succ] at h
    split at h
    · cases h
    · next k value hkey =>
      split at h
      · cases h
      · next acc' after hmember =>
        obtain ⟨hvalue, hacc⟩ := readMember?_eq_some hmember
        split at h
        · next hcomma =>
          obtain ⟨own, names, hr, hmembers, hown⟩ := ih h
          refine ⟨own, k :: names, hr, .more hkey hvalue hcomma hmembers, fun key hin => ?_⟩
          rw [hown key hin, hacc key hin, List.mem_cons, or_assoc]
        · next hclose =>
          cases h
          refine ⟨acc', [k], rfl, .last hkey hvalue hclose, fun key hin => ?_⟩
          rw [hacc key hin, List.mem_singleton]
        · cases h

/-- What a text that begins with a brace is read as: a record of the members with the keys of
messages. -/
theorem readRecord?_eq_some {cs inner rest : List Char} {r : Record}
    (hopen : Json.skipSpace cs = '\x7b' :: inner) (h : readRecord? cs = some (r, rest))
    (hend : Json.skipSpace rest = []) :
    ∃ own names, r = .members own ∧ Json.ObjectText cs names ∧ ∀ key ∈ keys,
      ((Json.member? key own).isSome = true ↔ key ∈ names) := by
  simp only [readRecord?, hopen] at h
  split at h
  · next hclose =>
    cases h
    exact ⟨[], [], rfl, .empty hopen hclose hend, fun key _ => by simp [Json.member?]⟩
  · obtain ⟨own, names, hr, hmembers, hown⟩ := readMembers_eq_some h
    refine ⟨own, names, hr, .members hopen hmembers hend, fun key hin => ?_⟩
    rw [hown key hin]
    simp [Json.member?]

theorem ofRecord?_members_eq_some {own : List (String × Json)} {m : Message}
    (h : ofRecord? (.members own) = some m) :
    m.id.isSome = (Json.member? "id" own).isSome ∧
      (Json.member? "method" own = none → m.method = "") := by
  simp only [ofRecord?, Option.bind_eq_bind, Option.bind_eq_some_iff] at h
  obtain ⟨stated, -, h⟩ := h
  split at h
  · cases h
  · simp only [Option.bind_eq_some_iff] at h
    obtain ⟨method, hmethod, params, -, id, hid, heq⟩ := h
    cases heq
    refine ⟨Slot.isSome_of_present hid, fun hnone => ?_⟩
    rw [Record.slot, hnone] at hmethod
    exact (Option.some.inj hmethod).symm

theorem decode?_encode_of_ofRecord? {r : Record} {m : Message} (h : ofRecord? r = some m)
    {id : MessageId} (hm : m.id = some id) : MessageId.decode? id.encode = some id := by
  simp only [ofRecord?, Option.bind_eq_bind, Option.bind_eq_some_iff] at h
  obtain ⟨stated, -, h⟩ := h
  split at h
  · cases h
  · simp only [Option.bind_eq_some_iff] at h
    obtain ⟨method, -, params, -, found, hfound, heq⟩ := h
    cases heq
    cases hm
    obtain ⟨j, -, hj⟩ := Slot.present_eq_some_some hfound
    exact MessageId.decode?_encode hj

/-- The id of a message that is read can be read again in print. -/
theorem decode?_encode_of_ofLine? {line : List Char} {m : Message} (h : ofLine? line = some m)
    {id : MessageId} (hm : m.id = some id) : MessageId.decode? id.encode = some id := by
  unfold ofLine? read? at h
  split at h
  · split at h
    · exact decode?_encode_of_ofRecord? h hm
    · cases h
  · cases h

/-- A message that stands for an object has an id exactly if the object has a member of this name,
and its method is empty if there is no such member. -/
theorem read?_objectText {cs : List Char} {names : List String} {m : Message}
    (hcs : Json.ObjectText cs names) (h : read? cs = some m) :
    (m.id.isSome = true ↔ "id" ∈ names) ∧ ("method" ∉ names → m.method = "") := by
  obtain ⟨inner, hopen⟩ : ∃ inner, Json.skipSpace cs = '\x7b' :: inner := by
    cases hcs with
    | empty hopen | members hopen => exact ⟨_, hopen⟩
  unfold read? at h
  split at h
  · next r rest hr =>
    split at h
    · next hend =>
      obtain ⟨own, names', rfl, hcs', hown⟩ := readRecord?_eq_some hopen hr hend
      obtain rfl := hcs.unique hcs'
      obtain ⟨hid, hmethod⟩ := ofRecord?_members_eq_some h
      rw [hid, hown "id" (by decide)]
      refine ⟨.rfl, fun hn => hmethod ?_⟩
      rwa [← Option.not_isSome_iff_eq_none, hown "method" (by decide)]
    · cases h
  · cases h

end Message

end EditorSession
