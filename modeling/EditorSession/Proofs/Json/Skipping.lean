import EditorSession.Json.Reader
import EditorSession.Json.Skip

/-! What can be read can be passed over.

Where a value can be read, passing over it ends at the same place (`Json.skip?_of_valueWithin`).
Reading calls itself for the parts of a value, and passing over keeps the arrays and objects that are
still open on a stack. So the induction is on the reading, and says what passing over the part leaves
within any open frames (`Json.Passes`). -/

namespace EditorSession
namespace Json

theorem length_skipSpace_le (cs : List Char) : (skipSpace cs).length ≤ cs.length :=
  (List.dropWhile_sublist isSpace).length_le

theorem length_of_skipSpace_eq_cons {c : Char} {cs rest : List Char}
    (h : skipSpace cs = c :: rest) : rest.length < cs.length := by
  have hle := length_skipSpace_le cs
  rw [h] at hle
  exact hle

/-! ### Strings and keys -/

theorem skipString?_of_readStringAfter {acc s cs rest : List Char} {high : Option Nat}
    (h : readStringAfter acc high cs = some (s, rest)) : skipString? cs = some rest := by
  fun_induction readStringAfter acc high cs with
  | case1 acc high a b c d cs ch hunit ih | case2 acc high a b c d cs unit hunit ih =>
    obtain ⟨u, hu, -⟩ := Option.bind_eq_some_iff.mp hunit
    rw [skipString?, if_pos (Option.isSome_of_eq_some hu)]
    exact ih h
  | case4 acc e cs hne ch hch ih =>
    rw [skipString?, if_pos (Option.isSome_of_eq_some hch)]
    · exact ih h
    · exact hne
  | case6 acc high cs hh =>
    cases h
    rfl
  | case8 acc high c cs hunit hsimple hquote hc ih =>
    rw [Bool.and_assoc, Bool.and_eq_true] at hc
    rw [skipString?, if_pos hc.2]
    · exact ih h
    · exact hunit
    · exact hsimple
    · exact hquote
  | _ => cases h

theorem skipString?_of_readString? {s : String} {cs rest : List Char}
    (h : readString? cs = some (s, rest)) : skipString? cs = some rest := by
  obtain ⟨⟨t, rest'⟩, ht, heq⟩ := Option.map_eq_some_iff.mp h
  cases heq
  exact skipString?_of_readStringAfter ht

theorem length_of_skipString? {cs rest : List Char} (h : skipString? cs = some rest) :
    rest.length < cs.length := by
  fun_induction skipString? cs with
  | case1 a b c d cs hunit ih | case3 e cs hne hsimple ih | case6 c cs hunit hsimple hquote hc ih =>
    have hlt := ih h
    simp only [List.length_cons]
    omega
  | case5 cs =>
    cases h
    exact Nat.lt_succ_self _
  | _ => cases h

theorem skipKey?_of_key? {k : String} {cs rest : List Char} (h : key? cs = some (k, rest)) :
    skipKey? cs = some rest := by
  unfold key? at h
  split at h
  · next inner hopen =>
    split at h
    · cases h
    · next k' after hk =>
      split at h
      · next hcolon =>
        cases h
        simp only [skipKey?, hopen, skipString?_of_readString? hk, hcolon]
      · cases h
  · cases h

theorem length_of_skipKey? {cs rest : List Char} (h : skipKey? cs = some rest) :
    rest.length < cs.length := by
  unfold skipKey? at h
  split at h
  · next inner hopen =>
    split at h
    · cases h
    · next after hk =>
      split at h
      · next hcolon =>
        cases h
        have hopen := length_of_skipSpace_eq_cons hopen
        have hafter := length_of_skipString? hk
        have hcolon := length_of_skipSpace_eq_cons hcolon
        omega
      · cases h
  · cases h

/-! ### Numerals -/

theorem length_takeDigits_add (cs : List Char) :
    (takeDigits cs).1.length + (takeDigits cs).2.length = cs.length := by
  rw [takeDigits, List.length_map, ← List.length_append, List.takeWhile_append_dropWhile]

namespace NumberToken

theorem length_of_readWhole? {cs rest : List Char} {digits : List Nat}
    (h : readWhole? cs = some (digits, rest)) : rest.length < cs.length := by
  have hlength := length_takeDigits_add cs
  unfold readWhole? at h
  split at h
  · cases h
  · cases h
  · next ds rest' hne hzero hds =>
    cases h
    rw [hds] at hlength
    have hpos : 0 < digits.length := List.length_pos_iff.mpr hne
    simp only at hlength
    omega

theorem length_of_readFraction? {cs rest : List Char} {fraction : Option (List Nat)}
    (h : readFraction? cs = some (fraction, rest)) : rest.length ≤ cs.length := by
  unfold readFraction? at h
  split at h
  · next cs =>
    have hlength := length_takeDigits_add cs
    split at h
    · cases h
    · next hds =>
      cases h
      rw [hds] at hlength
      simp only [List.length_cons] at hlength ⊢
      omega
  · cases h
    exact Nat.le_refl _

theorem length_readSign_le (cs : List Char) : (readSign cs).2.length ≤ cs.length := by
  unfold readSign
  split
  · exact Nat.le_succ _
  · exact Nat.le_succ _
  · exact Nat.le_refl _

theorem length_of_readExponent? {cs rest : List Char} {exponent : Option (Bool × List Nat)}
    (h : readExponent? cs = some (exponent, rest)) : rest.length ≤ cs.length := by
  unfold readExponent? at h
  split at h
  · next c cs =>
    split at h
    · have hlength := length_takeDigits_add (readSign cs).2
      have hsign := length_readSign_le cs
      split at h
      · cases h
      · next hds =>
        cases h
        rw [hds] at hlength
        simp only [List.length_cons] at hlength ⊢
        omega
    · cases h
      exact Nat.le_refl _
  · cases h
    exact Nat.le_refl _

theorem length_of_read? {cs rest : List Char} {token : NumberToken}
    (h : read? cs = some (token, rest)) : rest.length < cs.length := by
  unfold read? at h
  simp only [Option.bind_eq_bind, Option.bind_eq_some_iff, Prod.exists] at h
  obtain ⟨whole, afterWhole, hwhole, fraction, afterFraction, hfraction, exponent, afterExponent,
    hexponent, heq⟩ := h
  cases heq
  have hw := length_of_readWhole? hwhole
  have hf := length_of_readFraction? hfraction
  have he := length_of_readExponent? hexponent
  split at hw
  · simp only [List.length_cons] at hw ⊢
    omega
  · simp only at hw
    omega

end NumberToken

/-! ### Values -/

theorem length_of_skipScalar? {cs rest : List Char} (h : skipScalar? cs = some rest) :
    rest.length < cs.length := by
  unfold skipScalar? at h
  split at h
  · cases h
    simp only [List.length_cons]
    omega
  · cases h
    simp only [List.length_cons]
    omega
  · cases h
    simp only [List.length_cons]
    omega
  · exact Nat.lt_succ_of_lt (length_of_skipString? h)
  · obtain ⟨⟨token, rest'⟩, htoken, heq⟩ := Option.map_eq_some_iff.mp h
    cases heq
    exact NumberToken.length_of_read? htoken

/-- Within any open frames, passing over `cs` from a value on, with the frames `own` open, closes
these frames and leaves `rest`. It takes no more steps than it uses up characters. -/
def Passes (own : List Frame) (cs rest : List Char) : Prop :=
  ∃ steps, steps + rest.length ≤ cs.length ∧ ∀ frames fuel,
    skipWithin (steps + fuel) .value (own ++ frames) cs = skipWithin fuel .next frames rest

namespace Passes

variable {frame : Frame} {cs mid next rest : List Char}

/-- A value that no frame is opened for. -/
theorem of_step (hlt : rest.length < cs.length)
    (hstep : ∀ frames fuel,
      skipWithin (fuel + 1) .value frames cs = skipWithin fuel .next frames rest) :
    Passes [] cs rest := by
  refine ⟨1, by omega, fun frames fuel => ?_⟩
  rw [Nat.add_comm, List.nil_append, hstep]

/-- A value that a frame is opened for. -/
theorem of_open (h : Passes [frame] next rest) (hlt : next.length < cs.length)
    (hstep : ∀ frames fuel, skipWithin (fuel + 1) .value frames cs =
      skipWithin fuel .value (frame :: frames) next) : Passes [] cs rest := by
  obtain ⟨steps, hle, hpass⟩ := h
  refine ⟨steps + 1, by omega, fun frames fuel => ?_⟩
  rw [Nat.add_right_comm, List.nil_append, hstep]
  exact hpass frames fuel

/-- A value in a frame, with more to follow. -/
theorem followed (h : Passes [] cs mid) (hrest : Passes [frame] next rest)
    (hlt : next.length < mid.length)
    (hstep : ∀ frames fuel, skipWithin (fuel + 1) .next (frame :: frames) mid =
      skipWithin fuel .value (frame :: frames) next) : Passes [frame] cs rest := by
  obtain ⟨steps, hle, hpass⟩ := h
  obtain ⟨later, hle', hpass'⟩ := hrest
  refine ⟨steps + (later + 1), by omega, fun frames fuel => ?_⟩
  have hvalue := hpass (frame :: frames) (later + 1 + fuel)
  rw [List.nil_append] at hvalue
  rw [Nat.add_assoc, List.singleton_append, hvalue, Nat.add_right_comm, hstep]
  exact hpass' frames fuel

/-- The last value in a frame. -/
theorem last (h : Passes [] cs mid) (hlt : rest.length < mid.length)
    (hstep : ∀ frames fuel, skipWithin (fuel + 1) .next (frame :: frames) mid =
      skipWithin fuel .next frames rest) : Passes [frame] cs rest := by
  obtain ⟨steps, hle, hpass⟩ := h
  refine ⟨steps + 1, by omega, fun frames fuel => ?_⟩
  have hvalue := hpass (frame :: frames) (1 + fuel)
  rw [List.nil_append] at hvalue
  rw [Nat.add_assoc, List.singleton_append, hvalue, Nat.add_comm, hstep]

/-- A value that is neither an array nor an object. -/
theorem of_scalar (harray : ∀ inner, skipSpace cs ≠ '[' :: inner)
    (hobject : ∀ inner, skipSpace cs ≠ '\x7b' :: inner)
    (h : skipScalar? (skipSpace cs) = some rest) : Passes [] cs rest := by
  have hlt := Nat.lt_of_lt_of_le (length_of_skipScalar? h) (length_skipSpace_le cs)
  refine of_step hlt fun frames fuel => ?_
  rw [skipWithin]
  split
  · next he => exact (harray _ he).elim
  · next he => exact (hobject _ he).elim
  · rw [h]

theorem of_literal {c : Char} {more : List Char} (hcs : skipSpace cs = c :: more) (harray : c ≠ '[')
    (hobject : c ≠ '\x7b') (h : skipScalar? (c :: more) = some rest) : Passes [] cs rest := by
  rw [← hcs] at h
  refine of_scalar (fun inner he => harray ?_) (fun inner he => hobject ?_) h
  · exact (List.cons.inj (hcs.symm.trans he)).1
  · exact (List.cons.inj (hcs.symm.trans he)).1

end Passes

mutual

theorem passes_of_valueWithin {fuel depth : Nat} {cs rest : List Char} {v : Json}
    (h : valueWithin fuel depth cs = some (v, rest)) : Passes [] cs rest := by
  cases fuel with
  | zero => cases h
  | succ fuel =>
    unfold valueWithin at h
    split at h
    · next hcs =>
      cases h
      exact .of_literal hcs (by decide) (by decide) rfl
    · next hcs =>
      cases h
      exact .of_literal hcs (by decide) (by decide) rfl
    · next hcs =>
      cases h
      exact .of_literal hcs (by decide) (by decide) rfl
    · next hcs =>
      obtain ⟨⟨s, rest'⟩, hs, heq⟩ := Option.map_eq_some_iff.mp h
      cases heq
      exact .of_literal hcs (by decide) (by decide) (skipString?_of_readString? hs)
    · next inner hcs =>
      have hopen := length_of_skipSpace_eq_cons hcs
      split at h
      · cases h
      · next hclose =>
        cases h
        have hle := length_of_skipSpace_eq_cons hclose
        refine .of_step (by omega) fun frames fuel => ?_
        simp only [skipWithin, hcs, hclose]
      · next hne =>
        have hle := length_skipSpace_le inner
        refine .of_open (passes_of_itemsWithin h) (by omega) fun frames fuel => ?_
        simp only [skipWithin, hcs]
    · next inner hcs =>
      have hopen := length_of_skipSpace_eq_cons hcs
      split at h
      · cases h
      · next hclose =>
        cases h
        have hle := length_of_skipSpace_eq_cons hclose
        refine .of_step (by omega) fun frames fuel => ?_
        simp only [skipWithin, hcs, hclose]
      · next hne =>
        obtain ⟨next, hkey, hmembers⟩ := passes_of_membersWithin h
        have hle := length_skipSpace_le inner
        have hlt := length_of_skipKey? hkey
        refine .of_open hmembers (by omega) fun frames fuel => ?_
        simp only [skipWithin, hcs, hkey]
    · next hnull htrue hfalse hquote harray hobject =>
      obtain ⟨⟨token, rest'⟩, htoken, hvalue⟩ := Option.bind_eq_some_iff.mp h
      obtain ⟨v', -, heq⟩ := Option.bind_eq_some_iff.mp hvalue
      cases heq
      have hscalar : skipScalar? (skipSpace cs) = some rest := by
        rw [skipScalar?, htoken]
        · rfl
        · exact hnull
        · exact htrue
        · exact hfalse
        · exact hquote
      exact .of_scalar harray hobject hscalar

theorem passes_of_itemsWithin {fuel depth : Nat} {acc : List Json} {cs rest : List Char} {v : Json}
    (h : itemsWithin fuel depth acc cs = some (v, rest)) : Passes [.array] cs rest := by
  cases fuel with
  | zero => cases h
  | succ fuel =>
    unfold itemsWithin at h
    split at h
    · cases h
    · next hv =>
      have hvalue := passes_of_valueWithin hv
      split at h
      · next hcomma =>
        refine hvalue.followed (passes_of_itemsWithin h) (length_of_skipSpace_eq_cons hcomma)
          fun frames fuel => ?_
        simp only [skipWithin, hcomma]
      · next hclose =>
        cases h
        refine hvalue.last (length_of_skipSpace_eq_cons hclose) fun frames fuel => ?_
        simp only [skipWithin, hclose]
      · cases h

theorem passes_of_membersWithin {fuel depth : Nat} {acc : List (String × Json)}
    {cs rest : List Char} {v : Json} (h : membersWithin fuel depth acc cs = some (v, rest)) :
    ∃ next, skipKey? cs = some next ∧ Passes [.object] next rest := by
  cases fuel with
  | zero => cases h
  | succ fuel =>
    unfold membersWithin at h
    split at h
    · cases h
    · next k afterKey hk =>
      refine ⟨afterKey, skipKey?_of_key? hk, ?_⟩
      split at h
      · cases h
      · next hv =>
        have hvalue := passes_of_valueWithin hv
        split at h
        · next hcomma =>
          obtain ⟨next, hnext, hmembers⟩ := passes_of_membersWithin h
          have hlt := length_of_skipSpace_eq_cons hcomma
          have hkey := length_of_skipKey? hnext
          refine hvalue.followed hmembers (by omega) fun frames fuel => ?_
          simp only [skipWithin, hcomma, hnext]
        · next hclose =>
          cases h
          refine hvalue.last (length_of_skipSpace_eq_cons hclose) fun frames fuel => ?_
          simp only [skipWithin, hclose]
        · cases h

end

/-- A value that is read is passed over. -/
theorem skip?_of_valueWithin {fuel depth : Nat} {cs rest : List Char} {v : Json}
    (h : valueWithin fuel depth cs = some (v, rest)) : skip? cs = some rest := by
  obtain ⟨steps, hle, hpass⟩ := passes_of_valueWithin h
  -- one more step takes note that no frame is open
  obtain ⟨fuel, hfuel⟩ : ∃ fuel, 2 * cs.length + 2 = steps + (fuel + 1) :=
    ⟨2 * cs.length + 1 - steps, by omega⟩
  rw [skip?, hfuel]
  exact hpass [] (fuel + 1)

theorem skip?_of_value? {depth : Nat} {cs rest : List Char} {v : Json}
    (h : value? depth cs = some (v, rest)) : skip? cs = some rest :=
  skip?_of_valueWithin h

end Json

end EditorSession
