import EditorSession.Protocol.Diagnostic
import EditorSession.Protocol.ShowRequest

/-! What full records accept, sparse records accept, and with the same value.

A field that has to be there is one that may be absent and is not (`Slot.required_eq_some_iff`), and
a field that may be missing from an object is one that may be absent from an array too
(`Slot.optional_eq_some_iff`). So a sparse record has the value of a full one exactly where the full
record is read, but for arrays that end before an optional field: only the sparse record takes
these. -/

namespace EditorSession

namespace Slot

variable {α : Type} {decode : Json → Option α} {slot : Slot}

theorem required_eq_some_iff (hnull : decode .null = none) {a : α} :
    slot.required decode = some a ↔ slot.allowed decode = some (some a) := by
  cases slot with
  | missing => simp [required, allowed, optional]
  | cutOff => simp [required, allowed]
  | given v => cases v <;> simp [required, allowed, optional, hnull]

theorem optional_eq_some_iff {v : Option α} :
    slot.optional decode = some v ↔ slot.allowed decode = some v ∧ slot ≠ .cutOff := by
  cases slot <;> simp [allowed, optional]

theorem ne_cutOff_of_allowed {a : α} (h : slot.allowed decode = some (some a)) :
    slot ≠ .cutOff := by
  rintro rfl
  cases h

end Slot

/-- An array that ends before a record of `size` fields does. -/
def Json.IsShort (size : Nat) : Json → Prop
  | .arr items => items.length < size
  | _ => False

namespace Record

variable {size : Nat} {j : Json} {r : Record}

/-- Only an array can end before a field. -/
theorem slot_eq_cutOff_iff {index : Nat} {key : String} :
    r.slot index key = .cutOff ↔ ∃ items, r = .items items ∧ items.length ≤ index := by
  cases r with
  | members list => cases h : Json.member? key list <;> simp [slot, h]
  | items list =>
    rw [slot]
    cases h : list[index]? with
    | none => simpa using h
    | some v =>
      have hlt : index < list.length := (List.getElem?_eq_some_iff.mp h).1
      simpa using hlt

theorem read?_eq_items_iff {items : List Json} (hr : read? size j = some r) :
    r = .items items ↔ j = .arr items := by
  cases j with
  | arr list =>
    by_cases hlen : list.length ≤ size
    · rw [read?, if_pos hlen] at hr
      cases hr
      simp
    · rw [read?, if_neg hlen] at hr
      cases hr
  | obj list =>
    cases hr
    simp
  | _ => cases hr

/-- A record has its last field, unless it is an array that is too short. -/
theorem slot_last_ne_cutOff_iff (hr : read? (size + 1) j = some r) {key : String} :
    r.slot size key ≠ .cutOff ↔ ¬j.IsShort (size + 1) := by
  refine not_congr ?_
  simp only [slot_eq_cutOff_iff, read?_eq_items_iff hr]
  constructor
  · rintro ⟨items, rfl, hlen⟩
    exact Nat.lt_succ_of_le hlen
  · intro hshort
    cases j with
    | arr items => exact ⟨items, rfl, Nat.le_of_lt_succ hshort⟩
    | _ => cases hshort

/-- An array that has a field has those before it. -/
theorem slot_ne_cutOff_of_le {index later : Nat} {key laterKey : String}
    (h : r.slot later laterKey ≠ .cutOff) (hle : index ≤ later) : r.slot index key ≠ .cutOff := by
  rw [ne_eq, slot_eq_cutOff_iff] at h ⊢
  rintro ⟨items, hr, hlen⟩
  exact h ⟨items, hr, Nat.le_trans hlen hle⟩

end Record

/-! ### The fields that a record is read from -/

section
variable {j : Json}

theorem Location.decode?_eq_some_iff {l : Location} :
    Location.decode? j = some l ↔ ∃ r, Record.read? 2 j = some r ∧
      (r.slot 0 "uri").required Json.url? = some l.uri ∧
      (r.slot 1 "range").required Range.decode? = some l.range := by
  obtain ⟨uri, range⟩ := l
  simp only [Location.decode?, Option.bind_eq_bind, Option.bind_eq_some_iff, Option.some.injEq,
    Location.mk.injEq]
  grind

theorem SparseLocation.decode?_eq_some_iff {l : SparseLocation} :
    SparseLocation.decode? j = some l ↔ ∃ r, Record.read? 2 j = some r ∧
      (r.slot 0 "uri").allowed Json.url? = some l.uri ∧
      (r.slot 1 "range").allowed Range.decode? = some l.range := by
  obtain ⟨uri, range⟩ := l
  simp only [SparseLocation.decode?, Option.bind_eq_bind, Option.bind_eq_some_iff, Option.some.injEq,
    SparseLocation.mk.injEq]
  grind

theorem LocationLink.decode?_eq_some_iff {l : LocationLink} :
    LocationLink.decode? j = some l ↔ ∃ r, Record.read? 4 j = some r ∧
      (r.slot 0 "originSelectionRange").optional Range.decode? = some l.originRange ∧
      (r.slot 1 "targetUri").required Json.url? = some l.targetUri ∧
      (r.slot 2 "targetRange").required Range.decode? = some l.targetRange ∧
      (r.slot 3 "targetSelectionRange").required Range.decode? = some l.targetSelection := by
  obtain ⟨originRange, targetUri, targetRange, targetSelection⟩ := l
  simp only [LocationLink.decode?, Option.bind_eq_bind, Option.bind_eq_some_iff, Option.some.injEq,
    LocationLink.mk.injEq]
  grind

theorem SparseLink.decode?_eq_some_iff {l : SparseLink} :
    SparseLink.decode? j = some l ↔ ∃ r, Record.read? 4 j = some r ∧
      (r.slot 0 "originSelectionRange").allowed Range.decode? = some l.originRange ∧
      (r.slot 1 "targetUri").allowed Json.url? = some l.targetUri ∧
      (r.slot 2 "targetRange").allowed Range.decode? = some l.targetRange ∧
      (r.slot 3 "targetSelectionRange").allowed Range.decode? = some l.targetSelection := by
  obtain ⟨originRange, targetUri, targetRange, targetSelection⟩ := l
  simp only [SparseLink.decode?, Option.bind_eq_bind, Option.bind_eq_some_iff, Option.some.injEq,
    SparseLink.mk.injEq]
  grind

theorem Publication.decode?_eq_some_iff {p : Publication} :
    Publication.decode? j = some p ↔ ∃ r, Record.read? 3 j = some r ∧
      (r.slot 0 "uri").required Json.url? = some p.uri ∧
      (r.slot 1 "diagnostics").required (Json.list? Diagnostic.decode?) = some p.diagnostics ∧
      (r.slot 2 "version").optional Json.int32? = some p.version := by
  obtain ⟨uri, diagnostics, version⟩ := p
  simp only [Publication.decode?, Option.bind_eq_bind, Option.bind_eq_some_iff, Option.some.injEq,
    Publication.mk.injEq]
  grind

theorem SparsePublication.decode?_eq_some_iff {p : SparsePublication} :
    SparsePublication.decode? j = some p ↔ ∃ r, Record.read? 3 j = some r ∧
      (r.slot 0 "uri").allowed Json.url? = some p.uri ∧
      (r.slot 1 "diagnostics").allowed (Json.list? Diagnostic.decode?) = some p.diagnostics ∧
      (r.slot 2 "version").allowed Json.int32? = some p.version := by
  obtain ⟨uri, diagnostics, version⟩ := p
  simp only [SparsePublication.decode?, Option.bind_eq_bind, Option.bind_eq_some_iff, Option.some.injEq,
    SparsePublication.mk.injEq]
  grind

theorem ShowRequest.decode?_eq_some_iff {p : ShowRequest} :
    ShowRequest.decode? j = some p ↔ ∃ r, Record.read? 4 j = some r ∧
      (r.slot 0 "uri").required Json.url? = some p.uri ∧
      (r.slot 1 "external").optional Json.bool? = some p.external ∧
      (r.slot 2 "takeFocus").optional Json.bool? = some p.takeFocus ∧
      (r.slot 3 "selection").optional Range.decode? = some p.selection := by
  obtain ⟨uri, external, takeFocus, selection⟩ := p
  simp only [ShowRequest.decode?, Option.bind_eq_bind, Option.bind_eq_some_iff, Option.some.injEq,
    ShowRequest.mk.injEq]
  grind

theorem SparseShowRequest.decode?_eq_some_iff {p : SparseShowRequest} :
    SparseShowRequest.decode? j = some p ↔ ∃ r, Record.read? 4 j = some r ∧
      (r.slot 0 "uri").allowed Json.url? = some p.uri ∧
      (r.slot 1 "external").allowed Json.bool? = some p.external ∧
      (r.slot 2 "takeFocus").allowed Json.bool? = some p.takeFocus ∧
      (r.slot 3 "selection").allowed Range.decode? = some p.selection := by
  obtain ⟨uri, external, takeFocus, selection⟩ := p
  simp only [SparseShowRequest.decode?, Option.bind_eq_bind, Option.bind_eq_some_iff, Option.some.injEq,
    SparseShowRequest.mk.injEq]
  grind

/-! ### Full records and sparse ones -/

theorem Location.decode?_iff_sparse {l : Location} :
    Location.decode? j = some l ↔ SparseLocation.decode? j = some l.toSparse := by
  rw [Location.decode?_eq_some_iff, SparseLocation.decode?_eq_some_iff]
  refine exists_congr fun r => and_congr_right fun _ => and_congr ?_ ?_
  · exact Slot.required_eq_some_iff rfl
  · exact Slot.required_eq_some_iff rfl

/-- An array that has the target of a link has its origin before it. -/
theorem LocationLink.decode?_iff_sparse {l : LocationLink} :
    LocationLink.decode? j = some l ↔ SparseLink.decode? j = some l.toSparse := by
  rw [LocationLink.decode?_eq_some_iff, SparseLink.decode?_eq_some_iff]
  refine exists_congr fun r => and_congr_right fun _ => ?_
  rw [Slot.optional_eq_some_iff, Slot.required_eq_some_iff rfl, Slot.required_eq_some_iff rfl,
    Slot.required_eq_some_iff rfl]
  constructor
  · rintro ⟨⟨horigin, -⟩, htarget⟩
    exact ⟨horigin, htarget⟩
  · rintro ⟨horigin, huri, htarget⟩
    have hcut : r.slot 0 "originSelectionRange" ≠ .cutOff :=
      Record.slot_ne_cutOff_of_le (Slot.ne_cutOff_of_allowed huri) (Nat.zero_le 1)
    exact ⟨⟨horigin, hcut⟩, huri, htarget⟩

theorem Publication.decode?_iff_sparse {p : Publication} :
    Publication.decode? j = some p ↔
      SparsePublication.decode? j = some p.toSparse ∧ ¬j.IsShort 3 := by
  rw [Publication.decode?_eq_some_iff, SparsePublication.decode?_eq_some_iff, ← exists_and_right]
  refine exists_congr fun r => ?_
  rw [and_assoc]
  refine and_congr_right fun hr => ?_
  rw [Slot.optional_eq_some_iff, Slot.required_eq_some_iff rfl, Slot.required_eq_some_iff rfl,
    Record.slot_last_ne_cutOff_iff hr, and_assoc, and_assoc]
  rfl

theorem ShowRequest.decode?_iff_sparse {p : ShowRequest} :
    ShowRequest.decode? j = some p ↔
      SparseShowRequest.decode? j = some p.toSparse ∧ ¬j.IsShort 4 := by
  rw [ShowRequest.decode?_eq_some_iff, SparseShowRequest.decode?_eq_some_iff, ← exists_and_right]
  refine exists_congr fun r => ?_
  rw [and_assoc]
  refine and_congr_right fun hr => ?_
  rw [Slot.required_eq_some_iff rfl, Slot.optional_eq_some_iff, Slot.optional_eq_some_iff,
    Slot.optional_eq_some_iff, ← Record.slot_last_ne_cutOff_iff hr]
  constructor
  · rintro ⟨huri, ⟨hexternal, -⟩, ⟨hfocus, -⟩, hselection, hcut⟩
    exact ⟨⟨huri, hexternal, hfocus, hselection⟩, hcut⟩
  · rintro ⟨⟨huri, hexternal, hfocus, hselection⟩, hcut⟩
    have hbefore (index : Nat) (key : String) (hle : index ≤ 3) : r.slot index key ≠ .cutOff :=
      Record.slot_ne_cutOff_of_le hcut hle
    exact ⟨huri, ⟨hexternal, hbefore 1 _ (by decide)⟩, ⟨hfocus, hbefore 2 _ (by decide)⟩,
      hselection, hcut⟩

end

/-- A sparse record reads all that the full record reads, and gives its value as a sparse one. It
gives the value of a full record in one other case only, for an array that ends before an optional
field. -/
theorem Json.full_iff_sparse (j : Json) :
    (∀ l, Location.decode? j = some l ↔ SparseLocation.decode? j = some l.toSparse) ∧
    (∀ l, LocationLink.decode? j = some l ↔ SparseLink.decode? j = some l.toSparse) ∧
    (∀ p, Publication.decode? j = some p ↔
      SparsePublication.decode? j = some p.toSparse ∧ ¬j.IsShort 3) ∧
    ∀ p, ShowRequest.decode? j = some p ↔
      SparseShowRequest.decode? j = some p.toSparse ∧ ¬j.IsShort 4 :=
  ⟨fun _ => Location.decode?_iff_sparse, fun _ => LocationLink.decode?_iff_sparse,
    fun _ => Publication.decode?_iff_sparse, fun _ => ShowRequest.decode?_iff_sparse⟩

/-- A publication as an array without a version: only the sparse record takes it. -/
example :
    let j : Json := .arr [.str "file:///a", .arr []]
    (Publication.decode? j).isSome = false ∧ (SparsePublication.decode? j).isSome = true := by
  decide +kernel

end EditorSession
