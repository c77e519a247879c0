import EditorSession.Proofs.Json.Skipping

/-! Texts that are objects.

`Json.ObjectText` says of a text that it is an object, and which keys its members have. It is given
by rules: members are passed over one after the other, whatever their keys are. What is read as an
object is one by these rules, and has the same keys (`Json.exists_objectText_of_read?`); but a text
may also be one if some member could not be read, as one with a number out of range. -/

namespace EditorSession

namespace Json

/-- The text goes on with members of these keys up to the closing brace of their object, and with
the rest after it. -/
inductive Members : List Char → List String → List Char → Prop
  | last {key : String} {cs value after rest : List Char} (hkey : key? cs = some (key, value))
    (hvalue : skip? value = some after) (hclose : skipSpace after = '\x7d' :: rest) :
    Members cs [key] rest
  | more {key : String} {keys : List String} {cs value after next rest : List Char}
    (hkey : key? cs = some (key, value)) (hvalue : skip? value = some after)
    (hcomma : skipSpace after = ',' :: next) (hnext : Members next keys rest) :
    Members cs (key :: keys) rest

/-- The whole of the text is an object with members of these keys. -/
inductive ObjectText : List Char → List String → Prop
  | empty {cs inner rest : List Char} (hopen : skipSpace cs = '\x7b' :: inner)
    (hclose : skipSpace inner = '\x7d' :: rest) (hend : skipSpace rest = []) : ObjectText cs []
  | members {keys : List String} {cs inner rest : List Char}
    (hopen : skipSpace cs = '\x7b' :: inner) (hmembers : Members (skipSpace inner) keys rest)
    (hend : skipSpace rest = []) : ObjectText cs keys

theorem Members.unique {cs rest rest' : List Char} {keys keys' : List String}
    (h : Members cs keys rest) (h' : Members cs keys' rest') : keys = keys' ∧ rest = rest' := by
  induction h generalizing keys' rest' with
  | last hkey hvalue hclose =>
    cases h' with
    | last hkey' hvalue' hclose' =>
      cases hkey.symm.trans hkey'
      cases hvalue.symm.trans hvalue'
      cases hclose.symm.trans hclose'
      exact ⟨rfl, rfl⟩
    | more hkey' hvalue' hcomma' hnext' =>
      cases hkey.symm.trans hkey'
      cases hvalue.symm.trans hvalue'
      cases hclose.symm.trans hcomma'
  | more hkey hvalue hcomma hnext ih =>
    cases h' with
    | last hkey' hvalue' hclose' =>
      cases hkey.symm.trans hkey'
      cases hvalue.symm.trans hvalue'
      cases hcomma.symm.trans hclose'
    | more hkey' hvalue' hcomma' hnext' =>
      cases hkey.symm.trans hkey'
      cases hvalue.symm.trans hvalue'
      cases hcomma.symm.trans hcomma'
      obtain ⟨rfl, rfl⟩ := ih hnext'
      exact ⟨rfl, rfl⟩

/-- A brace that closes its object is no key. -/
theorem not_members_of_close {cs inner rest : List Char} {keys : List String}
    (hcs : cs = '\x7d' :: inner) : ¬Members cs keys rest := by
  subst hcs
  have hnone : key? ('\x7d' :: inner) = none := rfl
  intro h
  cases h with
  | last hkey | more hkey => cases hnone.symm.trans hkey

theorem ObjectText.unique {cs : List Char} {keys keys' : List String} (h : ObjectText cs keys)
    (h' : ObjectText cs keys') : keys = keys' := by
  cases h with
  | empty hopen hclose =>
    cases h' with
    | empty => rfl
    | members hopen' hmembers' =>
      cases hopen.symm.trans hopen'
      exact (not_members_of_close hclose hmembers').elim
  | members hopen hmembers =>
    cases h' with
    | empty hopen' hclose' =>
      cases hopen.symm.trans hopen'
      exact (not_members_of_close hclose' hmembers).elim
    | members hopen' hmembers' =>
      cases hopen.symm.trans hopen'
      exact (hmembers.unique hmembers').1

/-! ### Keys -/

theorem isSome_member?_iff {key : String} {members : List (String × Json)} :
    (member? key members).isSome = true ↔ key ∈ members.map Prod.fst := by
  simp [member?, List.find?_isSome]

theorem isSome_member?_concat {key k : String} {v : Json} {members : List (String × Json)} :
    (member? key (members ++ [(k, v)])).isSome = true ↔
      (member? key members).isSome = true ∨ key = k := by
  simp [isSome_member?_iff]

theorem isSome_member?_insertMember {key k : String} {v : Json} {members : List (String × Json)} :
    (member? key (insertMember k v members)).isSome = true ↔
      (member? key members).isSome = true ∨ key = k := by
  simp only [isSome_member?_iff]
  induction members with
  | nil => simp [insertMember]
  | cons m ms ih =>
    obtain ⟨k', v'⟩ := m
    unfold insertMember
    split
    · simp only [List.map_cons, List.mem_cons]
      exact or_comm
    split
    · next heq =>
      simp only [List.map_cons, List.mem_cons, heq]
      exact (or_iff_left_of_imp .inl).symm
    · simp only [List.map_cons, List.mem_cons, ih, or_assoc]

/-! ### Objects that are read -/

theorem membersWithin_eq_some {fuel depth : Nat} {acc : List (String × Json)} {cs rest : List Char}
    {v : Json} (h : membersWithin fuel depth acc cs = some (v, rest)) :
    ∃ members names, v = .obj members ∧ Members cs names rest ∧ ∀ key,
      ((member? key members).isSome = true ↔ (member? key acc).isSome = true ∨ key ∈ names) := by
  induction fuel generalizing acc cs with
  | zero => cases h
  | succ fuel ih =>
    unfold membersWithin at h
    split at h
    · cases h
    · next k value hkey =>
      split at h
      · cases h
      · next hv =>
        have hvalue := skip?_of_valueWithin hv
        split at h
        · next hcomma =>
          obtain ⟨members, names, heq, hmembers, hkeys⟩ := ih h
          refine ⟨members, k :: names, heq, .more hkey hvalue hcomma hmembers, fun key => ?_⟩
          rw [hkeys, isSome_member?_insertMember, List.mem_cons, or_assoc]
        · next hclose =>
          cases h
          refine ⟨_, [k], rfl, .last hkey hvalue hclose, fun key => ?_⟩
          rw [isSome_member?_insertMember, List.mem_singleton]
        · cases h

theorem itemsWithin_ne_obj {fuel depth : Nat} {acc : List Json} {cs rest : List Char}
    {members : List (String × Json)} :
    itemsWithin fuel depth acc cs ≠ some (.obj members, rest) := by
  induction fuel generalizing acc cs with
  | zero => exact nofun
  | succ fuel ih =>
    intro h
    unfold itemsWithin at h
    split at h
    · cases h
    · split at h
      · exact ih h
      · cases h
      · cases h

theorem NumberToken.value?_ne_obj (token : NumberToken) (members : List (String × Json)) :
    token.value? ≠ some (.obj members) := by
  have hfloat : token.float? ≠ some (.obj members) := by
    intro h
    obtain ⟨x, -, hx⟩ := Option.bind_eq_some_iff.mp h
    cases hx
  unfold value?
  dsimp only
  split
  · split
    · split
      · exact nofun
      · exact hfloat
    · split
      · exact nofun
      · exact hfloat
  · exact hfloat

/-- What is read as an object has members of the same keys by the rules. -/
theorem exists_objectText_of_read? {depth : Nat} {text : String} {members : List (String × Json)}
    (h : read? depth text = some (.obj members)) :
    ∃ names, ObjectText text.toList names ∧
      ∀ key, key ∈ names ↔ (member? key members).isSome = true := by
  unfold read? at h
  split at h
  · next v rest hv =>
    split at h
    · next hend =>
      cases h
      rw [value?, readBound, valueWithin] at hv
      split at hv
      · cases hv
      · cases hv
      · cases hv
      · obtain ⟨_, -, heq⟩ := Option.map_eq_some_iff.mp hv
        cases heq
      · split at hv
        · cases hv
        · cases hv
        · exact (itemsWithin_ne_obj hv).elim
      · next hopen =>
        split at hv
        · cases hv
        · next hclose =>
          cases hv
          exact ⟨[], .empty hopen hclose hend, fun key => by simp [member?]⟩
        · obtain ⟨members', names, heq, hmembers, hkeys⟩ := membersWithin_eq_some hv
          cases heq
          refine ⟨names, .members hopen hmembers hend, fun key => ?_⟩
          rw [hkeys]
          simp [member?]
      · obtain ⟨⟨token, rest'⟩, -, hvalue⟩ := Option.bind_eq_some_iff.mp hv
        obtain ⟨v, hv, heq⟩ := Option.bind_eq_some_iff.mp hvalue
        cases heq
        exact (token.value?_ne_obj _ hv).elim
    · cases h
  · cases h

end Json

end EditorSession
