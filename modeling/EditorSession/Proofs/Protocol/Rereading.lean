import EditorSession.Proofs.Protocol.Leniency
import EditorSession.Protocol.Highlights
import Mathlib.Data.List.Forall2

/-! What is written for a record is read again as the same record.

What a record writes for an absent field, null or nothing at all, is read as absent
(`Slot.allowed_orNull_iff`, `Slot.optional_elim_iff`). So a record is read again if the values of its
fields are (`Json.Rereads`), and in a record that was read they are: numbers are in range, and data
is not null. That leaves the URLs. A record is read again exactly if each of its URLs is
(`Diagnostic.rereads_iff` and its siblings), and nothing else in it can be lost. -/

namespace EditorSession

/-- The text of the URL stands for the URL. -/
def Url.Rereads (u : Url) : Prop := parse? u.toString = some u

instance (u : Url) : Decidable u.Rereads := inferInstanceAs (Decidable (_ = _))

/-- A tab keeps two dots from being read as a step up, and is not written. -/
example :
    ((Url.parse? "file:C:\t../x").map fun u => (u.toString, decide u.Rereads)) =
      some ("file:///C:/../x", false) := by
  decide +kernel

namespace Json

variable {α : Type} {decode : Json → Option α} {encode : α → Json}

/-- The value is read again from what is written for it. -/
def Rereads (decode : Json → Option α) (encode : α → Json) (a : α) : Prop :=
  decode (encode a) = some a

theorem rereads_url_iff {u : Url} : Rereads url? ofUrl u ↔ u.Rereads := .rfl

theorem rereads_word (n : UInt32) : Rereads word? ofWord n := by
  have hlt : (n.toNat : Int) < UInt32.size := by exact_mod_cast n.toNat_lt
  rw [Rereads, ofWord, word?, if_pos ⟨Int.natCast_nonneg _, hlt⟩, Int.toNat_natCast,
    UInt32.ofNat_toNat]

theorem rereads_of_int32? {j : Json} {i : Int} (h : int32? j = some i) : Rereads int32? .int i := by
  cases j with
  | int n =>
    by_cases hn : Int32.minValue.toInt ≤ n ∧ n ≤ Int32.maxValue.toInt
    · rw [int32?, if_pos hn] at h
      cases h
      exact if_pos hn
    · rw [int32?, if_neg hn] at h
      cases h
  | _ => cases h

/-! ### Lists -/

theorem mapM_eq_some_iff {items : List Json} {xs : List α} :
    items.mapM decode = some xs ↔ List.Forall₂ (fun j a => decode j = some a) items xs := by
  induction items generalizing xs with
  | nil => cases xs <;> simp
  | cons j items ih =>
    simp only [List.mapM_cons, Option.bind_eq_bind, Option.bind_eq_some_iff, Option.pure_def,
      Option.some.injEq, ih]
    constructor
    · rintro ⟨a, ha, as, has, rfl⟩
      exact .cons ha has
    · intro h
      cases h with
      | cons ha has => exact ⟨_, ha, _, has, rfl⟩

theorem rereads_list_iff {xs : List α} :
    Rereads (list? decode) (ofList encode) xs ↔ ∀ a ∈ xs, Rereads decode encode a := by
  rw [Rereads, ofList, list?, mapM_eq_some_iff, List.forall₂_map_left_iff, List.forall₂_same]
  rfl

theorem exists_of_mem_list? {j : Json} {xs : List α} (h : list? decode j = some xs) {a : α}
    (ha : a ∈ xs) : ∃ i, decode i = some a := by
  cases j with
  | arr items =>
    have hall := mapM_eq_some_iff.mp h
    clear h
    induction hall with
    | nil => cases ha
    | cons hi _ ih =>
      rcases List.mem_cons.mp ha with rfl | ha
      · exact ⟨_, hi⟩
      · exact ih ha
  | _ => cases h

/-! ### Members -/

/-- Among the members that are written, a key has the value that it was given, or none. -/
theorem member?_ofPresent {members : List (String × Option Json)}
    (h : (members.map Prod.fst).Nodup) (key : String) :
    member? key (members.filterMap fun (key, value) => value.map (key, ·)) =
      (members.find? fun m => m.1 == key).bind (·.2) := by
  induction members with
  | nil => rfl
  | cons m members ih =>
    obtain ⟨k, value⟩ := m
    obtain ⟨hk, hmembers⟩ := List.nodup_cons.mp h
    have hrest := ih hmembers
    by_cases hkey : k = key
    · -- No later member has the key, so an absent value is not found at all.
      have hnone : (members.find? fun m => m.1 == key) = none :=
        List.find?_eq_none.mpr fun m hm hmk =>
          hk (List.mem_map.mpr ⟨m, hm, (eq_of_beq hmk).trans hkey.symm⟩)
      rw [hnone] at hrest
      cases value with
      | none => simpa [hkey] using hrest
      | some v => simp [member?, hkey]
    · cases value with
      | none => simpa [hkey] using hrest
      | some v => simpa [member?, hkey] using hrest

end Json

/-! ### Fields -/

namespace Slot

variable {α : Type} {decode : Json → Option α} {encode : α → Json} {slot : Slot} {v : Option α}

theorem required_of_rereads {a : α} (h : Json.Rereads decode encode a) :
    (given (encode a)).required decode = some a := h

theorem optional_given {j : Json} (h : j ≠ .null) :
    (given j).optional decode = (decode j).map some := by
  cases j with
  | null => exact (h rfl).elim
  | _ => rfl

theorem optional_given_iff (hnull : decode .null = none) {j : Json} {a : α} :
    (given j).optional decode = some (some a) ↔ decode j = some a := by
  cases j <;> simp [optional, hnull]

/-- A field that is null when absent. -/
theorem allowed_orNull_iff (hnull : decode .null = none) :
    (given (Json.orNull encode v)).allowed decode = some v ↔
      ∀ a ∈ v, Json.Rereads decode encode a := by
  cases v with
  | none => simp [Json.orNull, allowed, optional]
  | some a => simp [Json.orNull, allowed, optional_given_iff hnull, Json.Rereads]

/-- A field that is left out when absent. -/
theorem optional_elim_iff (hnull : decode .null = none) :
    (v.elim missing (given ∘ encode)).optional decode = some v ↔
      ∀ a ∈ v, Json.Rereads decode encode a := by
  cases v with
  | none => simp [optional]
  | some a => simp [optional_given_iff hnull, Json.Rereads]

/-- Any data, but for null, which counts as none. -/
theorem optional_some_iff {v : Option Json} :
    (v.elim missing given).optional some = some v ↔ ∀ a ∈ v, a ≠ .null := by
  cases v with
  | none => simp [optional]
  | some a => cases a <;> simp [optional]

theorem exists_of_optional (h : slot.optional decode = some v) {a : α} (ha : a ∈ v) :
    ∃ j, j ≠ .null ∧ decode j = some a := by
  cases ha
  cases slot with
  | missing => cases h
  | cutOff => cases h
  | given j =>
    by_cases hj : j = .null
    · rw [hj] at h
      cases h
    · rw [optional_given hj, Option.map_eq_some_iff] at h
      obtain ⟨a', ha', heq⟩ := h
      cases heq
      exact ⟨j, hj, ha'⟩

theorem exists_of_allowed (h : slot.allowed decode = some v) {a : α} (ha : a ∈ v) :
    ∃ j, decode j = some a := by
  have hcut : slot ≠ .cutOff := by
    rintro rfl
    cases h
    cases ha
  obtain ⟨j, -, hj⟩ := exists_of_optional (optional_eq_some_iff.mpr ⟨h, hcut⟩) ha
  exact ⟨j, hj⟩

end Slot

namespace Record

theorem read?_obj (size : Nat) (list : List (String × Json)) :
    read? size (.obj list) = some (members list) := rfl

@[simp] theorem slot_members_cons_self (index : Nat) (key : String) (j : Json)
    (rest : List (String × Json)) : (members ((key, j) :: rest)).slot index key = .given j := by
  simp [slot, Json.member?]

@[simp] theorem slot_members_cons_of_ne (index : Nat) {key k : String} (h : k ≠ key) (j : Json)
    (rest : List (String × Json)) :
    (members ((k, j) :: rest)).slot index key = (members rest).slot index key := by
  simp [slot, Json.member?, h]

theorem slot_ofPresent {list : List (String × Option Json)} (h : (list.map Prod.fst).Nodup)
    (index : Nat) (key : String) :
    (members (list.filterMap fun (key, value) => value.map (key, ·))).slot index key =
      ((list.find? fun m => m.1 == key).bind (·.2)).elim .missing .given := by
  rw [slot, Json.member?_ofPresent h]

end Record

/-! ### Records without URLs -/

theorem Position.decode?_eq_some_iff {j : Json} {p : Position} :
    Position.decode? j = some p ↔ ∃ r, Record.read? 2 j = some r ∧
      (r.slot 0 "line").required Json.word? = some p.line ∧
      (r.slot 1 "character").required Json.word? = some p.character := by
  obtain ⟨line, character⟩ := p
  simp only [Position.decode?, Option.bind_eq_bind, Option.bind_eq_some_iff, Option.some.injEq,
    Position.mk.injEq]
  grind

theorem Range.decode?_eq_some_iff {j : Json} {r : Range} :
    Range.decode? j = some r ↔ ∃ s, Record.read? 2 j = some s ∧
      (s.slot 0 "start").required Position.decode? = some r.start ∧
      (s.slot 1 "end").required Position.decode? = some r.stop := by
  obtain ⟨start, stop⟩ := r
  simp only [Range.decode?, Option.bind_eq_bind, Option.bind_eq_some_iff, Option.some.injEq,
    Range.mk.injEq]
  grind

theorem HighlightToken.decode?_eq_some_iff {j : Json} {t : HighlightToken} :
    HighlightToken.decode? j = some t ↔ ∃ r, Record.read? 2 j = some r ∧
      (r.slot 0 "range").required Range.decode? = some t.range ∧
      (r.slot 1 "kind").required Json.string? = some t.kind := by
  obtain ⟨range, kind⟩ := t
  simp only [HighlightToken.decode?, Option.bind_eq_bind, Option.bind_eq_some_iff,
    Option.some.injEq, HighlightToken.mk.injEq]
  grind

theorem Position.rereads (p : Position) : Json.Rereads decode? encode p := by
  refine decode?_eq_some_iff.mpr ⟨_, rfl, ?_, ?_⟩
  · simpa using Slot.required_of_rereads (Json.rereads_word p.line)
  · simpa using Slot.required_of_rereads (Json.rereads_word p.character)

theorem Range.rereads (r : Range) : Json.Rereads decode? encode r := by
  refine decode?_eq_some_iff.mpr ⟨_, rfl, ?_, ?_⟩
  · simpa using Slot.required_of_rereads r.start.rereads
  · simpa using Slot.required_of_rereads r.stop.rereads

theorem HighlightToken.rereads (t : HighlightToken) : Json.Rereads decode? encode t := by
  refine decode?_eq_some_iff.mpr ⟨_, rfl, ?_, ?_⟩
  · simpa using Slot.required_of_rereads t.range.rereads
  · simp [Slot.required, Json.string?]

theorem DiagnosticCode.rereads_of_decode? {j : Json} {c : DiagnosticCode} (h : decode? j = some c) :
    Json.Rereads decode? encode c := by
  cases c with
  | text s => rfl
  | number n =>
    cases j with
    | int i =>
      obtain ⟨n', hn, heq⟩ := Option.map_eq_some_iff.mp h
      cases heq
      have hread : Json.int32? (.int n) = some n := Json.rereads_of_int32? hn
      simp [Json.Rereads, decode?, encode, hread]
    | _ => cases h

/-! ### Records with URLs -/

theorem Location.rereads_iff (l : Location) :
    Json.Rereads decode? encode l ↔ l.uri.Rereads := by
  have hrange : Range.decode? l.range.encode = some l.range := l.range.rereads
  rw [Json.Rereads, decode?_eq_some_iff, encode]
  simp [Record.read?_obj, Slot.required, hrange]
  rfl

theorem SparseLocation.rereads_iff (l : SparseLocation) :
    Json.Rereads decode? encode l ↔ ∀ u ∈ l.uri, u.Rereads := by
  rw [Json.Rereads, decode?_eq_some_iff, encode]
  simp [Record.read?_obj, Slot.allowed_orNull_iff (rfl : Json.url? .null = none),
    Slot.allowed_orNull_iff (rfl : Range.decode? .null = none), Json.rereads_url_iff, Range.rereads]

theorem SparseLink.rereads_iff (l : SparseLink) :
    Json.Rereads decode? encode l ↔ ∀ u ∈ l.targetUri, u.Rereads := by
  rw [Json.Rereads, decode?_eq_some_iff, encode]
  simp [Record.read?_obj, Slot.allowed_orNull_iff (rfl : Json.url? .null = none),
    Slot.allowed_orNull_iff (rfl : Range.decode? .null = none), Json.rereads_url_iff, Range.rereads]

theorem SparseShowRequest.rereads_iff (p : SparseShowRequest) :
    Json.Rereads decode? encode p ↔ ∀ u ∈ p.uri, u.Rereads := by
  have hbool (b : Bool) : Json.Rereads Json.bool? .bool b := rfl
  rw [Json.Rereads, decode?_eq_some_iff, encode]
  simp [Record.read?_obj, Slot.allowed_orNull_iff (rfl : Json.url? .null = none),
    Slot.allowed_orNull_iff (rfl : Json.bool? .null = none),
    Slot.allowed_orNull_iff (rfl : Range.decode? .null = none), Json.rereads_url_iff, Range.rereads,
    hbool]

theorem Highlights.decode?_eq_some_iff {j : Json} {h : Highlights} :
    Highlights.decode? j = some h ↔ ∃ r, Record.read? 2 j = some r ∧
      (r.slot 0 "uri").required Json.url? = some h.uri ∧
      (r.slot 1 "tokens").withDefault [] (Json.list? HighlightToken.decode?) = some h.tokens := by
  obtain ⟨uri, tokens⟩ := h
  simp only [Highlights.decode?, Option.bind_eq_bind, Option.bind_eq_some_iff, Option.some.injEq,
    Highlights.mk.injEq]
  grind

theorem Highlights.rereads_iff (h : Highlights) :
    Json.Rereads decode? encode h ↔ h.uri.Rereads := by
  have htokens : Json.list? HighlightToken.decode? (.ofList HighlightToken.encode h.tokens) =
      some h.tokens := Json.rereads_list_iff.mpr fun t _ => t.rereads
  rw [Json.Rereads, decode?_eq_some_iff, encode]
  simp [Record.read?_obj, Slot.required, Slot.withDefault, htokens]
  rfl

theorem RelatedInformation.decode?_eq_some_iff {j : Json} {i : RelatedInformation} :
    RelatedInformation.decode? j = some i ↔ ∃ r, Record.read? 2 j = some r ∧
      (r.slot 0 "location").required Location.decode? = some i.location ∧
      (r.slot 1 "message").required Json.string? = some i.message := by
  obtain ⟨location, message⟩ := i
  simp only [RelatedInformation.decode?, Option.bind_eq_bind, Option.bind_eq_some_iff,
    Option.some.injEq, RelatedInformation.mk.injEq]
  grind

theorem RelatedInformation.rereads_iff (i : RelatedInformation) :
    Json.Rereads decode? encode i ↔ i.location.uri.Rereads := by
  rw [← Location.rereads_iff, Json.Rereads, decode?_eq_some_iff, encode]
  simp [Record.read?_obj, Slot.required, Json.string?, Json.Rereads]

namespace Diagnostic

theorem decode?_eq_some_iff {j : Json} {d : Diagnostic} :
    Diagnostic.decode? j = some d ↔ ∃ r, Record.read? 9 j = some r ∧
      (r.slot 0 "range").required Range.decode? = some d.range ∧
      (r.slot 1 "severity").optional Json.int32? = some d.severity ∧
      (r.slot 2 "code").optional DiagnosticCode.decode? = some d.code ∧
      (r.slot 3 "codeDescription").optional decodeHref? = some d.codeHref ∧
      (r.slot 4 "source").optional Json.string? = some d.source ∧
      (r.slot 5 "message").required Json.string? = some d.message ∧
      (r.slot 6 "relatedInformation").optional (Json.list? RelatedInformation.decode?) =
        some d.related ∧
      (r.slot 7 "tags").optional (Json.list? Json.int32?) = some d.tags ∧
      (r.slot 8 "data").optional some = some d.data := by
  obtain ⟨range, severity, code, codeHref, source, message, related, tags, data⟩ := d
  simp only [Diagnostic.decode?, Option.bind_eq_bind, Option.bind_eq_some_iff, Option.some.injEq,
    Diagnostic.mk.injEq]
  grind

theorem rereads_href_iff (u : Url) : Json.Rereads decodeHref? encodeHref u ↔ u.Rereads := by
  simp [Json.Rereads, decodeHref?, encodeHref, Record.read?_obj, Slot.required]
  rfl

/-- The URLs of a diagnostic: where its code is explained, and those of the related places. -/
def urls (d : Diagnostic) : List Url :=
  d.codeHref.toList ++ (d.related.getD []).map (·.location.uri)

theorem forall_mem_urls_iff {d : Diagnostic} {P : Url → Prop} :
    (∀ u ∈ d.urls, P u) ↔ (∀ u ∈ d.codeHref, P u) ∧
      ∀ is ∈ d.related, ∀ i ∈ is, P i.location.uri := by
  cases hr : d.related <;> simp [urls, hr, or_imp, forall_and]

theorem rereads_iff_parts (d : Diagnostic) : Json.Rereads decode? encode d ↔
    (∀ n ∈ d.severity, Json.Rereads Json.int32? .int n) ∧
    (∀ c ∈ d.code, Json.Rereads DiagnosticCode.decode? DiagnosticCode.encode c) ∧
    (∀ u ∈ d.codeHref, u.Rereads) ∧
    (∀ is ∈ d.related, ∀ i ∈ is, i.location.uri.Rereads) ∧
    (∀ ts ∈ d.tags, ∀ n ∈ ts, Json.Rereads Json.int32? .int n) ∧ ∀ k ∈ d.data, k ≠ .null := by
  have hrange : Range.decode? d.range.encode = some d.range := d.range.rereads
  have hsource : ∀ s ∈ d.source, Json.Rereads Json.string? .str s := fun _ _ => rfl
  rw [Json.Rereads, decode?_eq_some_iff, encode, Json.ofPresent]
  simp [Record.read?_obj, Record.slot_ofPresent, Slot.required, Json.string?, hrange,
    Slot.optional_elim_iff (rfl : Json.int32? .null = none),
    Slot.optional_elim_iff (rfl : DiagnosticCode.decode? .null = none),
    Slot.optional_elim_iff (rfl : decodeHref? .null = none),
    Slot.optional_elim_iff (rfl : Json.string? .null = none),
    Slot.optional_elim_iff (rfl : Json.list? RelatedInformation.decode? .null = none),
    Slot.optional_elim_iff (rfl : Json.list? Json.int32? .null = none)]
  simp only [Slot.optional_some_iff, rereads_href_iff, Json.rereads_list_iff,
    RelatedInformation.rereads_iff]
  exact fun _ _ => and_congr_right fun _ => and_iff_right hsource

/-- Every part of a diagnostic that was read is read again, but for its URLs. -/
theorem rereads_iff {j : Json} {d : Diagnostic} (h : decode? j = some d) :
    Json.Rereads decode? encode d ↔ ∀ u ∈ d.urls, u.Rereads := by
  obtain ⟨r, -, -, hseverity, hcode, -, -, -, -, htags, hdata⟩ := decode?_eq_some_iff.mp h
  rw [rereads_iff_parts, forall_mem_urls_iff]
  constructor
  · rintro ⟨-, -, hhref, hrelated, -⟩
    exact ⟨hhref, hrelated⟩
  · rintro ⟨hhref, hrelated⟩
    refine ⟨?_, ?_, hhref, hrelated, ?_, ?_⟩
    · intro n hn
      obtain ⟨i, -, hi⟩ := Slot.exists_of_optional hseverity hn
      exact Json.rereads_of_int32? hi
    · intro c hc
      obtain ⟨i, -, hi⟩ := Slot.exists_of_optional hcode hc
      exact DiagnosticCode.rereads_of_decode? hi
    · intro ts hts n hn
      obtain ⟨i, -, hi⟩ := Slot.exists_of_optional htags hts
      obtain ⟨i', hi'⟩ := Json.exists_of_mem_list? hi hn
      exact Json.rereads_of_int32? hi'
    · intro k hk
      obtain ⟨i, hi, heq⟩ := Slot.exists_of_optional hdata hk
      cases heq
      exact hi

end Diagnostic

namespace SparsePublication

def urls (p : SparsePublication) : List Url :=
  p.uri.toList ++ p.list.flatMap Diagnostic.urls

theorem forall_mem_urls_iff {p : SparsePublication} {P : Url → Prop} :
    (∀ u ∈ p.urls, P u) ↔ (∀ u ∈ p.uri, P u) ∧
      ∀ ds ∈ p.diagnostics, ∀ d ∈ ds, ∀ u ∈ d.urls, P u := by
  cases hd : p.diagnostics <;> simp [urls, list, hd, or_imp, forall_and]; grind

/-- A publication that was read is read again, but for its URLs. -/
theorem rereads_iff {j : Json} {p : SparsePublication} (h : decode? j = some p) :
    Json.Rereads decode? encode p ↔ ∀ u ∈ p.urls, u.Rereads := by
  obtain ⟨r, -, -, hdiagnostics, hversion⟩ := decode?_eq_some_iff.mp h
  have hversion : ∀ n ∈ p.version, Json.Rereads Json.int32? .int n := by
    intro n hn
    obtain ⟨i, hi⟩ := Slot.exists_of_allowed hversion hn
    exact Json.rereads_of_int32? hi
  have hlist : ∀ ds ∈ p.diagnostics, Json.Rereads (Json.list? Diagnostic.decode?)
      (Json.ofList Diagnostic.encode) ds ↔ ∀ d ∈ ds, ∀ u ∈ d.urls, u.Rereads := by
    intro ds hds
    obtain ⟨i, hi⟩ := Slot.exists_of_allowed hdiagnostics hds
    rw [Json.rereads_list_iff]
    refine forall₂_congr fun d hd => ?_
    obtain ⟨i', hi'⟩ := Json.exists_of_mem_list? hi hd
    exact Diagnostic.rereads_iff hi'
  rw [Json.Rereads, decode?_eq_some_iff, encode, forall_mem_urls_iff, ← forall₂_congr hlist]
  simp [Record.read?_obj, Slot.allowed_orNull_iff (rfl : Json.url? .null = none),
    Slot.allowed_orNull_iff (rfl : Json.list? Diagnostic.decode? .null = none),
    Slot.allowed_orNull_iff (rfl : Json.int32? .null = none), Json.rereads_url_iff]
  exact fun _ _ => hversion

end SparsePublication

/-- What a computation gives, if the outcome passes a test. -/
theorem exists_of_any {α : Type} {o : Option α} {P : α → Prop} [DecidablePred P]
    (h : o.any (fun a => decide (P a)) = true) : ∃ a, o = some a ∧ P a := by
  obtain ⟨a, ha, hP⟩ := (Option.any_eq_true _ _).mp h
  exact ⟨a, ha, of_decide_eq_true hP⟩

/-- Whatever a record was read from, it is read again from what is written for it, and is then
written in the same way, if the text of each of its URLs stands for the URL. Otherwise it is not. -/
theorem Json.decode?_encode_iff (j : Json) :
    (∀ l, SparseLocation.decode? j = some l →
      (SparseLocation.decode? l.encode = some l ↔ ∀ u ∈ l.uri, u.Rereads)) ∧
    (∀ l, SparseLink.decode? j = some l →
      (SparseLink.decode? l.encode = some l ↔ ∀ u ∈ l.targetUri, u.Rereads)) ∧
    (∀ p, SparsePublication.decode? j = some p →
      (SparsePublication.decode? p.encode = some p ↔ ∀ u ∈ p.urls, u.Rereads)) ∧
    (∀ p, SparseShowRequest.decode? j = some p →
      (SparseShowRequest.decode? p.encode = some p ↔ ∀ u ∈ p.uri, u.Rereads)) ∧
    ∀ h, Highlights.decode? j = some h →
      (Highlights.decode? h.encode = some h ↔ h.uri.Rereads) :=
  ⟨fun l _ => l.rereads_iff, fun l _ => l.rereads_iff, fun _ h => SparsePublication.rereads_iff h,
    fun p _ => p.rereads_iff, fun h _ => h.rereads_iff⟩

/-- One record of each kind is read again: a place without a range, a link as an array, a publication
as an array without a version and with one diagnostic as an array and one as an object, a request
without a focus, and highlights. A place at a URL whose text stands for another one is not. -/
theorem Json.decode?_encode_iff_kinds :
    let place : Json := .obj [("range", .null), ("uri", .str "file:///A.kt")]
    let link : Json := .arr
      [.null, .str "file:///B.kt", .arr [.arr [.int 0, .int 4], .arr [.int 0, .int 9]]]
    let publication : Json := .arr
      [.str "file:///A.kt",
        .arr
          [.arr
            [.arr [.arr [.int 0, .int 4], .arr [.int 0, .int 9]], .int 7, .str "E1",
              .obj [("href", .str "https://kotlin.dev/e1")], .null, .str "unused",
              .arr [.arr [.arr [.str "file:///B.kt",
                .arr [.arr [.int 1, .int 0], .arr [.int 1, .int 0]]], .str "here"]],
              .arr [.int 1, .int 9], .obj [("fix", .null)]],
            .obj
              [("code", .int 12), ("message", .str "no"), ("data", .null),
                ("range", .arr [.arr [.int 1, .int 0], .arr [.int 1, .int 0]])]]]
    let request : Json := .obj
      [("external", .bool false), ("uri", .str "file:///A.kt"),
        ("selection", .arr [.arr [.int 1, .int 0], .arr [.int 2, .int 0]])]
    let highlights : Json := .obj
      [("tokens", .arr [.arr [.arr [.arr [.int 0, .int 0], .arr [.int 0, .int 3]],
        .str "keyword"]]), ("uri", .str "file:///A.kt")]
    let tabbed : Json := .arr [.str "file:C:\t../x"]
    (∃ l, SparseLocation.decode? place = some l ∧ l.uri.isSome = true ∧
      SparseLocation.decode? l.encode = some l) ∧
    (∃ l, SparseLink.decode? link = some l ∧ l.targetUri.isSome = true ∧
      SparseLink.decode? l.encode = some l) ∧
    (∃ p, SparsePublication.decode? publication = some p ∧ p.urls.length = 3 ∧
      SparsePublication.decode? p.encode = some p) ∧
    (∃ p, SparseShowRequest.decode? request = some p ∧ p.uri.isSome = true ∧
      SparseShowRequest.decode? p.encode = some p) ∧
    (∃ h, Highlights.decode? highlights = some h ∧ h.tokens.length = 1 ∧
      Highlights.decode? h.encode = some h) ∧
    ∃ l, SparseLocation.decode? tabbed = some l ∧ SparseLocation.decode? l.encode ≠ some l := by
  intro place link publication request highlights tabbed
  have hplace : ∃ l, SparseLocation.decode? place = some l ∧ l.uri.isSome = true ∧
      ∀ u ∈ l.uri, u.Rereads := exists_of_any (by decide +kernel)
  have hlink : ∃ l, SparseLink.decode? link = some l ∧ l.targetUri.isSome = true ∧
      ∀ u ∈ l.targetUri, u.Rereads := exists_of_any (by decide +kernel)
  have hpublication : ∃ p, SparsePublication.decode? publication = some p ∧ p.urls.length = 3 ∧
      ∀ u ∈ p.urls, u.Rereads := exists_of_any (by decide +kernel)
  have hrequest : ∃ p, SparseShowRequest.decode? request = some p ∧ p.uri.isSome = true ∧
      ∀ u ∈ p.uri, u.Rereads := exists_of_any (by decide +kernel)
  have hhighlights : ∃ h, Highlights.decode? highlights = some h ∧ h.tokens.length = 1 ∧
      h.uri.Rereads := exists_of_any (by decide +kernel)
  have htabbed : ∃ l, SparseLocation.decode? tabbed = some l ∧ ¬∀ u ∈ l.uri, u.Rereads :=
    exists_of_any (by decide +kernel)
  refine ⟨?_, ?_, ?_, ?_, ?_, ?_⟩
  · obtain ⟨l, hl, huri, hurls⟩ := hplace
    exact ⟨l, hl, huri, ((Json.decode?_encode_iff place).1 l hl).mpr hurls⟩
  · obtain ⟨l, hl, huri, hurls⟩ := hlink
    exact ⟨l, hl, huri, ((Json.decode?_encode_iff link).2.1 l hl).mpr hurls⟩
  · obtain ⟨p, hp, hlength, hurls⟩ := hpublication
    exact ⟨p, hp, hlength, ((Json.decode?_encode_iff publication).2.2.1 p hp).mpr hurls⟩
  · obtain ⟨p, hp, huri, hurls⟩ := hrequest
    exact ⟨p, hp, huri, ((Json.decode?_encode_iff request).2.2.2.1 p hp).mpr hurls⟩
  · obtain ⟨h, hh, hlength, huri⟩ := hhighlights
    exact ⟨h, hh, hlength, ((Json.decode?_encode_iff highlights).2.2.2.2 h hh).mpr huri⟩
  · obtain ⟨l, hl, hurls⟩ := htabbed
    exact ⟨l, hl, fun h => hurls (((Json.decode?_encode_iff tabbed).1 l hl).mp h)⟩

end EditorSession
