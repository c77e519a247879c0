import EditorSession.Signature.Label
import Mathlib.Data.List.Basic
import Mathlib.Data.List.Induction

/-! Which candidate of signature help is picked.

`Leads` says that a candidate has parameters, more than any before it and no fewer than any after
it. A list has such a candidate at one index at most, and it is the one that is picked
(`SignatureHelp.foldl_better_eq_some_iff`). So the choice stays if other candidates are taken away
or candidates with no more parameters are added at the end. -/

namespace EditorSession

/-- The candidate at index `i` has parameters, more than every earlier one and no fewer than any
later one. -/
structure Leads (ss : List Signature) (i : Nat) (s : Signature) : Prop where
  candidate : ss[i]? = some s
  parameters : 0 < s.parameterList.length
  earlier : ∀ j < i, ∀ t, ss[j]? = some t → t.parameterList.length < s.parameterList.length
  later : ∀ j > i, ∀ t, ss[j]? = some t → t.parameterList.length ≤ s.parameterList.length

namespace Leads

variable {ss : List Signature} {i j : Nat} {s t : Signature}

theorem index_unique (h : Leads ss i s) (h' : Leads ss j t) : i = j := by
  rcases Nat.lt_trichotomy i j with hlt | heq | hlt
  · exact absurd (h'.earlier i hlt s h.candidate) (Nat.not_lt.mpr (h.later j hlt t h'.candidate))
  · exact heq
  · exact absurd (h.earlier j hlt t h'.candidate) (Nat.not_lt.mpr (h'.later i hlt s h.candidate))

/-- A candidate still leads when another one is taken away, at its index or the one before. -/
theorem eraseIdx (h : Leads ss i s) {k : Nat} (hk : k ≠ i) : ∃ j, Leads (ss.eraseIdx k) j s := by
  have hread (j : Nat) : (ss.eraseIdx k)[j]? = ss[if j < k then j else j + 1]? := by
    rw [List.getElem?_eraseIdx]
    split <;> rfl
  refine ⟨if k < i then i - 1 else i, ?_, h.parameters, fun j hj t ht => ?_, fun j hj t ht => ?_⟩
  · rw [hread, ← h.candidate]
    congr 1
    split <;> split <;> omega
  · rw [hread] at ht
    refine h.earlier _ ?_ t ht
    split at hj <;> split <;> omega
  · rw [hread] at ht
    refine h.later _ ?_ t ht
    split at hj <;> split <;> omega

theorem append (h : Leads ss i s) {more : List Signature}
    (hmore : ∀ t ∈ more, t.parameterList.length ≤ s.parameterList.length) :
    Leads (ss ++ more) i s := by
  have hi : i < ss.length := (List.getElem?_eq_some_iff.mp h.candidate).1
  refine ⟨?_, h.parameters, fun j hj t ht => ?_, fun j hj t ht => ?_⟩
  · rw [List.getElem?_append_left hi, h.candidate]
  · rw [List.getElem?_append_left (Nat.lt_trans hj hi)] at ht
    exact h.earlier j hj t ht
  · rcases Nat.lt_or_ge j ss.length with hlt | hge
    · rw [List.getElem?_append_left hlt] at ht
      exact h.later j hj t ht
    · rw [List.getElem?_append_right hge] at ht
      exact hmore t (List.mem_of_getElem? ht)

end Leads

theorem leads_concat_iff {ss : List Signature} {x s : Signature} {i : Nat} :
    Leads (ss ++ [x]) i s ↔
      (Leads ss i s ∧ x.parameterList.length ≤ s.parameterList.length) ∨
      (i = ss.length ∧ s = x ∧ 0 < x.parameterList.length ∧
        ∀ t ∈ ss, t.parameterList.length < x.parameterList.length) := by
  have hlast : (ss ++ [x])[ss.length]? = some x := List.getElem?_concat_length
  constructor
  · intro h
    have hi := (List.getElem?_eq_some_iff.mp h.candidate).1
    rw [List.length_append, List.length_singleton] at hi
    rcases Nat.lt_or_eq_of_le (Nat.le_of_lt_succ hi) with hlt | rfl
    · have hread {j : Nat} {t : Signature} (ht : ss[j]? = some t) : (ss ++ [x])[j]? = some t := by
        rw [List.getElem?_append_left (List.getElem?_eq_some_iff.mp ht).1, ht]
      have hcandidate := h.candidate
      rw [List.getElem?_append_left hlt] at hcandidate
      exact .inl ⟨⟨hcandidate, h.parameters, fun j hj t ht => h.earlier j hj t (hread ht),
        fun j hj t ht => h.later j hj t (hread ht)⟩, h.later _ hlt x hlast⟩
    · obtain rfl : x = s := Option.some.inj (hlast.symm.trans h.candidate)
      refine .inr ⟨rfl, rfl, h.parameters, fun t ht => ?_⟩
      obtain ⟨j, hj, rfl⟩ := List.getElem_of_mem ht
      refine h.earlier j hj _ ?_
      rw [List.getElem?_append_left hj, List.getElem?_eq_getElem hj]
  · rintro (⟨h, hx⟩ | ⟨rfl, rfl, hparameters, hmore⟩)
    · exact h.append (by simpa using hx)
    · refine ⟨hlast, hparameters, fun j hj t ht => ?_, fun j hj t ht => ?_⟩
      · rw [List.getElem?_append_left hj] at ht
        exact hmore t (List.mem_of_getElem? ht)
      · have hnone : (ss ++ [s])[j]? = none :=
          List.getElem?_eq_none (by simpa using Nat.succ_le_of_lt hj)
        cases hnone.symm.trans ht

namespace SignatureHelp

variable {ss : List Signature} {best : Option Signature} {s x : Signature}

/-- The number of parameters of the best candidate so far. -/
def most (best : Option Signature) : Nat := (best.map fun b => b.parameterList.length).getD 0

theorem better_eq (best : Option Signature) (x : Signature) :
    better best x = if most best < x.parameterList.length then some x else best := rfl

theorem better_eq_some_iff : better best x = some s ↔
    (best = some s ∧ x.parameterList.length ≤ s.parameterList.length) ∨
      (s = x ∧ most best < x.parameterList.length) := by
  rw [better_eq]
  by_cases h : most best < x.parameterList.length
  · rw [if_pos h, Option.some.injEq]
    refine ⟨fun hs => .inr ⟨hs.symm, h⟩, ?_⟩
    rintro (⟨rfl, hle⟩ | ⟨rfl, -⟩)
    · exact absurd h (Nat.not_lt.mpr hle)
    · rfl
  · rw [if_neg h]
    refine ⟨fun hs => .inl ⟨hs, ?_⟩, fun hs => hs.elim And.left fun hs => absurd hs.2 h⟩
    subst hs
    exact Nat.le_of_not_lt h

theorem most_better : most (better best x) = max (most best) x.parameterList.length := by
  rw [better_eq]
  split
  · next h =>
    rw [Nat.max_eq_right (Nat.le_of_lt h)]
    rfl
  · next h => rw [Nat.max_eq_left (Nat.le_of_not_lt h)]

theorem most_foldl_better_lt_iff {n : Nat} : most (ss.foldl better none) < n ↔
    0 < n ∧ ∀ t ∈ ss, t.parameterList.length < n := by
  induction ss using List.reverseRecOn with
  | nil => simp [most]
  | append_singleton ss x ih =>
    rw [List.foldl_concat, most_better, Nat.max_lt, ih, and_assoc]
    simp [or_imp, forall_and]

/-- The candidate that is picked leads, and the other way round. -/
theorem foldl_better_eq_some_iff : ss.foldl better none = some s ↔ ∃ i, Leads ss i s := by
  induction ss using List.reverseRecOn generalizing s with
  | nil => exact ⟨nofun, fun ⟨i, h⟩ => nomatch h.candidate⟩
  | append_singleton ss x ih =>
    rw [List.foldl_concat, better_eq_some_iff, ih, most_foldl_better_lt_iff]
    simp only [leads_concat_iff, exists_or, exists_and_right, exists_eq, true_and]

/-- None is picked exactly if none has parameters. -/
theorem foldl_better_eq_none_iff :
    ss.foldl better none = none ↔ ∀ t ∈ ss, t.parameterList.length = 0 := by
  constructor
  · intro hnone t ht
    have hmost : most (ss.foldl better none) < 1 := by
      rw [hnone]
      exact Nat.one_pos
    exact Nat.lt_one_iff.mp ((most_foldl_better_lt_iff.mp hmost).2 t ht)
  · intro hzero
    rw [Option.eq_none_iff_forall_ne_some]
    intro s hs
    obtain ⟨i, h⟩ := foldl_better_eq_some_iff.mp hs
    exact absurd (hzero s (List.mem_of_getElem? h.candidate)) (Nat.ne_of_gt h.parameters)

/-- Another list has the same choice if the candidate that leads goes on to lead, and candidates
with parameters are there only if they were. -/
theorem foldl_better_congr {ss' : List Signature}
    (hleads : ∀ i s, Leads ss i s → ∃ j, Leads ss' j s)
    (hnone : (∀ t ∈ ss, t.parameterList.length = 0) → ∀ t ∈ ss', t.parameterList.length = 0) :
    ss'.foldl better none = ss.foldl better none := by
  cases h : ss.foldl better none with
  | none => exact foldl_better_eq_none_iff.mpr (hnone (foldl_better_eq_none_iff.mp h))
  | some s =>
    obtain ⟨i, hs⟩ := foldl_better_eq_some_iff.mp h
    exact foldl_better_eq_some_iff.mpr (hleads i s hs)

/-- A candidate is picked exactly if one has parameters, and it is the one at the index where all
earlier candidates have fewer parameters and no later one has more. There is no other such index.
The choice stays when a candidate at another index is taken away, and when candidates with no more
parameters come at the end. -/
theorem selected?_leads (h : SignatureHelp) :
    ((∃ s, h.selected? = some s) ↔
      ∃ s ∈ h.signatures, ∃ p ps, s.parameters = some (p :: ps)) ∧
    (∀ s, h.selected? = some s ↔ ∃ i, Leads h.signatures i s) ∧
    (∀ i j s t, Leads h.signatures i s → Leads h.signatures j t → i = j) ∧
    (∀ k, (∀ s, ¬Leads h.signatures k s) →
      { h with signatures := h.signatures.eraseIdx k }.selected? = h.selected?) ∧
    ∀ more, (∀ t ∈ more, t.parameterList.length ≤ most h.selected?) →
      { h with signatures := h.signatures ++ more }.selected? = h.selected? := by
  have hcount (s : Signature) :
      (∃ p ps, s.parameters = some (p :: ps)) ↔ ¬s.parameterList.length = 0 := by
    rcases hp : s.parameters with _ | _ | ⟨p, ps⟩ <;> simp [Signature.parameterList, hp]
  refine ⟨?_, fun s => foldl_better_eq_some_iff, fun i j s t => Leads.index_unique,
    fun k hk => foldl_better_congr (fun i s hs => ?_) fun hzero t ht => ?_,
    fun more hmore => foldl_better_congr (fun i s hs => ?_) fun hzero t ht => ?_⟩
  · rw [← Option.isSome_iff_exists, Option.isSome_iff_ne_none, Ne, selected?,
      foldl_better_eq_none_iff]
    simp only [hcount, not_forall, exists_prop]
  · refine hs.eraseIdx ?_
    rintro rfl
    exact hk s hs
  · exact hzero t (List.mem_of_mem_eraseIdx ht)
  · have hpicked : h.selected? = some s := foldl_better_eq_some_iff.mpr ⟨i, hs⟩
    rw [hpicked] at hmore
    exact ⟨i, hs.append hmore⟩
  · have hpicked : h.selected? = none := foldl_better_eq_none_iff.mpr hzero
    rw [hpicked] at hmore
    rcases List.mem_append.mp ht with ht | ht
    · exact hzero t ht
    · exact Nat.le_zero.mp (hmore t ht)

/-- Two candidates with one parameter, behind one without a list, and before an empty list. -/
theorem selected?_leads_ties :
    let parameters := some [({ label := .text "x" } : Parameter)]
    let first : Signature := { label := "f(x)", parameters }
    let second : Signature := { label := "g(x)", parameters }
    let h : SignatureHelp := { signatures := [{ label := "e" }, first] }
    let more : List Signature := [second, { label := "h()", parameters := some [] }]
    (∀ t ∈ more, t.parameterList.length ≤ most h.selected?) ∧ h.selected? = some first ∧
      { h with signatures := h.signatures ++ more }.selected? = h.selected? := by
  intro parameters first second h more
  have hmore : ∀ t ∈ more, t.parameterList.length ≤ most h.selected? := by decide
  exact ⟨hmore, rfl, (selected?_leads h).2.2.2.2 more hmore⟩

end SignatureHelp

end EditorSession
