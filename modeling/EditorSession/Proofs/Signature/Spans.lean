import EditorSession.Proofs.Text.Addresses
import EditorSession.Signature.Label
import Mathlib.Data.List.Forall2
import Mathlib.Data.List.Induction

/-! What the label of a signature spells.

A label that can be written is laid out from a name and a text for every parameter
(`Signature.format?_eq_some_iff`). The layout spells the name and the texts, and it has one active
span if the active index is that of a parameter (`StyledLabel.exists_active`), else none. A text is
that of the parameter itself or a part of the label between two columns, so it is missing only if
one of these is no column of the label or the second comes before the first
(`Signature.parameterText?_eq_none_iff`). -/

namespace EditorSession

theorem exists_forall₂_iff {α β : Type} {R : α → β → Prop} {as : List α} :
    (∃ bs, List.Forall₂ R as bs) ↔ ∀ a ∈ as, ∃ b, R a b := by
  induction as with
  | nil => simp
  | cons a as ih =>
    rw [List.forall_mem_cons, ← ih]
    constructor
    · rintro ⟨_, h⟩
      cases h with
      | cons hb hbs => exact ⟨⟨_, hb⟩, _, hbs⟩
    · rintro ⟨⟨b, hb⟩, bs, hbs⟩
      exact ⟨b :: bs, .cons hb hbs⟩

/-! ### Layout -/

namespace StyledLabel

/-- What stands before the parameter with an index. -/
def separator (index : Nat) : List Span :=
  if index = 0 then [] else [⟨",", .punctuation⟩, ⟨" ", .neutral⟩]

/-- The spans of parameters with the given texts, of which the first has the given index. -/
def parameters (active : Option UInt32) : Nat → List String → List Span
  | _, [] => []
  | index, text :: texts =>
    separator index ++
      Signature.parameterSpan active index text :: parameters active (index + 1) texts

/-- The label of a name and of parameters with the given texts. -/
def ofTexts (name : String) (active : Option UInt32) (texts : List String) : StyledLabel :=
  ⟨⟨name, .neutral⟩ :: ⟨"(", .punctuation⟩ :: parameters active 0 texts ++ [⟨")", .punctuation⟩]⟩

@[simp] theorem text_nil : text ⟨[]⟩ = "" := rfl

@[simp] theorem text_cons (span : Span) (spans : List Span) :
    text ⟨span :: spans⟩ = span.text ++ text ⟨spans⟩ := String.join_cons

theorem text_append (spans later : List Span) :
    text ⟨spans ++ later⟩ = text ⟨spans⟩ ++ text ⟨later⟩ := by
  simp only [text, List.map_append, String.join_append]

theorem text_separator_succ (index : Nat) : text ⟨separator (index + 1)⟩ = ", " := rfl

theorem style_separator {index : Nat} {span : Span} (h : span ∈ separator index) :
    span.style ≠ .active := by
  unfold separator at h
  split at h
  · cases h
  · simp only [List.mem_cons, List.not_mem_nil, or_false] at h
    rcases h with rfl | rfl <;> decide

variable {active : Option UInt32}

theorem parameters_append (index : Nat) (texts later : List String) :
    parameters active index (texts ++ later) =
      parameters active index texts ++ parameters active (index + texts.length) later := by
  induction texts generalizing index with
  | nil => rfl
  | cons text texts ih =>
    have hindex : index + (text :: texts).length = index + 1 + texts.length := by
      rw [List.length_cons]
      omega
    simp only [List.cons_append, parameters, ih, List.append_assoc, hindex]

theorem text_parameters_cons (index : Nat) (text : String) (texts : List String) :
    StyledLabel.text ⟨parameters active index (text :: texts)⟩ =
      StyledLabel.text ⟨separator index⟩ ++ ", ".intercalate (text :: texts) := by
  induction texts generalizing index text with
  | nil =>
    rw [parameters, parameters, text_append, text_cons, text_nil, String.append_empty,
      String.intercalate_singleton]
    rfl
  | cons next texts ih =>
    rw [parameters, text_append, text_cons, ih, text_separator_succ,
      String.intercalate_cons_cons]
    simp only [String.append_assoc]
    rfl

theorem text_parameters (texts : List String) :
    text ⟨parameters active 0 texts⟩ = ", ".intercalate texts := by
  cases texts with
  | nil => rfl
  | cons t texts =>
    rw [text_parameters_cons]
    exact String.empty_append

/-- With what stands before the next parameter, every text is followed by a comma and a space. -/
theorem text_parameters_separator (texts : List String) :
    text ⟨parameters active 0 texts ++ separator texts.length⟩ =
      String.join (texts.map (· ++ ", ")) := by
  induction texts using List.reverseRecOn with
  | nil => rfl
  | append_singleton texts t ih =>
    have hlast : parameters active texts.length [t] =
        separator texts.length ++ [Signature.parameterSpan active texts.length t] := rfl
    rw [parameters_append, Nat.zero_add, hlast, ← List.append_assoc, text_append, text_append, ih,
      List.length_append, List.map_append, String.join_append, String.append_assoc]
    rfl

theorem text_ofTexts (name : String) (texts : List String) :
    (ofTexts name active texts).text = name ++ "(" ++ ", ".intercalate texts ++ ")" := by
  rw [ofTexts, List.cons_append, List.cons_append, text_cons, text_cons, text_append,
    text_parameters, text_cons, text_nil]
  simp only [String.append_assoc, String.append_empty]

/-! ### The active span -/

theorem activeText?_eq_none_iff {l : StyledLabel} :
    l.activeText? = none ↔ ∀ span ∈ l.spans, span.style ≠ .active := by
  simp [activeText?, List.find?_eq_none]

theorem activeText?_of_split {l : StyledLabel} {before after : List Span} {t : String}
    (h : l.spans = before ++ ⟨t, .active⟩ :: after)
    (hbefore : ∀ span ∈ before, span.style ≠ .active) : l.activeText? = some t := by
  have hfind : l.spans.find? (fun s => s.style == .active) = some ⟨t, .active⟩ :=
    List.find?_eq_some_iff_append.mpr
      ⟨rfl, before, after, h, fun span hs => by simpa using hbefore span hs⟩
  rw [activeText?, hfind, Option.map_some]

/-- Parameters whose indices are not the active one have no active span. -/
theorem style_parameters {index : Nat} {texts : List String}
    (h : ∀ i, active = some i → i.toNat < index ∨ index + texts.length ≤ i.toNat) :
    ∀ span ∈ parameters active index texts, span.style ≠ .active := by
  induction texts generalizing index with
  | nil => exact List.forall_mem_nil _
  | cons t texts ih =>
    rw [parameters, List.forall_mem_append, List.forall_mem_cons]
    refine ⟨fun span => style_separator, ?_, ih fun i hi => ?_⟩
    · have hne : active.map UInt32.toNat ≠ some index := by
        intro heq
        obtain ⟨i, hi, rfl⟩ := Option.map_eq_some_iff.mp heq
        have hi' := h i hi
        rw [List.length_cons] at hi'
        omega
      rw [Signature.parameterSpan, if_neg hne]
      exact nofun
    · have hi' := h i hi
      rw [List.length_cons] at hi'
      omega

/-- No span is active if the index is that of no parameter. -/
theorem style_ofTexts (name : String) {texts : List String}
    (h : ∀ i, active = some i → texts.length ≤ i.toNat) :
    ∀ span ∈ (ofTexts name active texts).spans, span.style ≠ .active := by
  have hparameters : ∀ span ∈ parameters active 0 texts, span.style ≠ .active :=
    style_parameters fun i hi => .inr (by simpa using h i hi)
  simp only [ofTexts, List.cons_append, List.forall_mem_cons, List.forall_mem_append]
  exact ⟨nofun, nofun, hparameters, nofun, List.forall_mem_nil _⟩

/-- The span of the parameter with the active index is active, and no other span. -/
theorem exists_active (name : String) {t : String} {texts : List String} {i : UInt32}
    (ht : texts[i.toNat]? = some t) :
    ∃ before after, (ofTexts name (some i) texts).spans = before ++ ⟨t, .active⟩ :: after ∧
      (∀ span ∈ before ++ after, span.style ≠ .active) ∧
      text ⟨before⟩ = name ++ "(" ++ String.join ((texts.take i.toNat).map (· ++ ", ")) := by
  obtain ⟨hi, rfl⟩ := List.getElem?_eq_some_iff.mp ht
  have hlength : (texts.take i.toNat).length = i.toNat := List.length_take_of_le (Nat.le_of_lt hi)
  have hsplit : texts = texts.take i.toNat ++ texts[i.toNat] :: texts.drop (i.toNat + 1) := by
    rw [← List.drop_eq_getElem_cons hi, List.take_append_drop]
  have hspan : Signature.parameterSpan (some i) i.toNat texts[i.toNat] =
      ⟨texts[i.toNat], .active⟩ := by
    rw [Signature.parameterSpan, Option.map_some, if_pos rfl]
  refine ⟨⟨name, .neutral⟩ :: ⟨"(", .punctuation⟩ ::
      (parameters (some i) 0 (texts.take i.toNat) ++ separator (texts.take i.toNat).length),
    parameters (some i) (i.toNat + 1) (texts.drop (i.toNat + 1)) ++ [⟨")", .punctuation⟩],
    ?_, ?_, ?_⟩
  · rw [ofTexts]
    conv => lhs; rw [hsplit]
    rw [parameters_append, hlength, Nat.zero_add, parameters, hspan]
    simp only [List.cons_append, List.append_assoc]
  · have hearlier : ∀ span ∈ parameters (some i) 0 (texts.take i.toNat), span.style ≠ .active := by
      apply style_parameters
      rintro j ⟨⟩
      right
      omega
    have hlater : ∀ span ∈ parameters (some i) (i.toNat + 1) (texts.drop (i.toNat + 1)),
        span.style ≠ .active := by
      apply style_parameters
      rintro j ⟨⟩
      left
      omega
    simp only [List.cons_append, List.append_assoc, List.forall_mem_cons, List.forall_mem_append]
    exact ⟨nofun, nofun, hearlier, fun _ => style_separator, hlater, nofun, List.forall_mem_nil _⟩
  · rw [text_cons, text_cons, text_parameters_separator]
    exact String.append_assoc.symm

end StyledLabel

/-! ### Texts of parameters -/

/-- Of two beginnings of a text, the one with fewer units is a beginning of the other. -/
theorem prefix_of_unitLength_le {text a b : List Char} (ha : a <+: text) (hb : b <+: text)
    (h : unitLength a ≤ unitLength b) : a <+: b := by
  rcases List.prefix_or_prefix_of_prefix ha hb with hab | ⟨t, rfl⟩
  · exact hab
  · rw [unitLength_append] at h
    have hle := length_le_unitLength t
    have ht : t = [] := List.length_eq_zero_iff.mp (by omega)
    exact ⟨[], by rw [ht, List.append_nil, List.append_nil]⟩

namespace Signature

/-- The column is that of a place between two characters of the label. -/
def HasColumn (s : Signature) (column : UInt32) : Prop :=
  ∃ a b : String, s.label = a ++ b ∧ unitLength a.toList = column.toNat

/-- The text that a parameter stands for: its own, or what is between two columns of the label. -/
def Denotes (s : Signature) : ParameterLabel → String → Prop
  | .text own, t => t = own
  | .columns start stop, t => ∃ a b : String, s.label = a ++ t ++ b ∧
    unitLength a.toList = start.toNat ∧ unitLength (a ++ t).toList = stop.toNat

variable {s : Signature}

theorem exists_denotes_columns_iff {start stop : UInt32} :
    (∃ t, s.Denotes (.columns start stop) t) ↔
      s.HasColumn start ∧ s.HasColumn stop ∧ start ≤ stop := by
  constructor
  · rintro ⟨t, a, b, hlabel, ha, hat⟩
    refine ⟨⟨a, t ++ b, by rw [hlabel, String.append_assoc], ha⟩, ⟨a ++ t, b, hlabel, hat⟩, ?_⟩
    rw [String.toList_append, unitLength_append] at hat
    rw [UInt32.le_iff_toNat_le]
    omega
  · rintro ⟨⟨a, a', ha, hua⟩, ⟨b, b', hb, hub⟩, hle⟩
    have hat : a.toList <+: s.label.toList := ⟨a'.toList, by rw [ha, String.toList_append]⟩
    have hbt : b.toList <+: s.label.toList := ⟨b'.toList, by rw [hb, String.toList_append]⟩
    have hunits : unitLength a.toList ≤ unitLength b.toList := by
      rwa [hua, hub, ← UInt32.le_iff_toNat_le]
    obtain ⟨t, ht⟩ := prefix_of_unitLength_le hat hbt hunits
    have hab : b = a ++ String.ofList t := by
      rw [← String.toList_inj, ← ht, String.toList_append, String.toList_ofList]
    exact ⟨String.ofList t, a, b', by rw [hb, hab], hua, by rw [← hab, hub]⟩

/-- In a label whose units can be counted, the text that is looked up is the one denoted. -/
theorem parameterText?_eq_some_iff (h : unitLength s.label.toList < UInt32.size)
    {p : ParameterLabel} {t : String} : s.parameterText? p = some t ↔ s.Denotes p t := by
  cases p with
  | text own => simp [parameterText?, Denotes, eq_comm]
  | columns start stop =>
    have hreach {column : UInt32} {a b : List Char} (hab : s.label.toList = a ++ b) :
        byteOffset? s.label.toList column = some (byteLength a) ↔
          unitLength a = column.toNat := by
      have ha : a <+: s.label.toList := ⟨b, hab.symm⟩
      rw [← Units.reaches_iff_of_prefix ha h, byteOffset?_eq_some_iff]
      refine ⟨?_, fun hr => ⟨a, ha, hr, rfl⟩⟩
      rintro ⟨a', ha', hr, hlength⟩
      rwa [eq_of_byteLength_eq ha ha' hlength.symm]
    simp only [parameterText?, Option.bind_eq_bind, Option.bind_eq_some_iff,
      Option.map_eq_some_iff]
    constructor
    · rintro ⟨m, hm, n, hn, part, hpart, rfl⟩
      obtain ⟨a, b, hlabel, rfl, rfl⟩ := slice?_eq_some_iff.mp hpart
      refine ⟨String.ofList a, String.ofList b, ?_, ?_, ?_⟩
      · rw [← String.toList_inj, hlabel]
        simp
      · rw [String.toList_ofList]
        exact (hreach (by rw [hlabel, List.append_assoc])).mp hm
      · rw [String.toList_append, String.toList_ofList, String.toList_ofList]
        exact (hreach hlabel).mp hn
    · rintro ⟨a, b, hlabel, ha, hat⟩
      have hchars : s.label.toList = a.toList ++ t.toList ++ b.toList := by
        rw [hlabel, String.toList_append, String.toList_append]
      rw [String.toList_append] at hat
      exact ⟨_, (hreach (by rw [hchars, List.append_assoc])).mpr ha, _, (hreach hchars).mpr hat,
        t.toList, slice?_eq_some_iff.mpr ⟨_, _, hchars, rfl, rfl⟩, String.ofList_toList⟩

/-- Only columns can be without a text: one of them is no column of the label, or they are the wrong
way round. -/
theorem parameterText?_eq_none_iff (h : unitLength s.label.toList < UInt32.size)
    {p : ParameterLabel} : s.parameterText? p = none ↔ ∃ start stop, p = .columns start stop ∧
      (¬s.HasColumn start ∨ ¬s.HasColumn stop ∨ stop < start) := by
  rw [← Option.not_isSome_iff_eq_none, Option.isSome_iff_exists]
  simp only [parameterText?_eq_some_iff h]
  cases p with
  | text own =>
    refine iff_of_false (fun hnone => hnone ⟨own, rfl⟩) ?_
    rintro ⟨_, _, ⟨⟩, -⟩
  | columns start stop =>
    rw [exists_denotes_columns_iff, not_and_or, not_and_or, UInt32.not_le]
    constructor
    · intro hunfit
      exact ⟨start, stop, rfl, hunfit⟩
    · rintro ⟨_, _, ⟨⟩, hunfit⟩
      exact hunfit

/-! ### Labels -/

theorem name?_eq_some_iff {name : String} :
    s.name? = some name ↔ ∃ rest, s.label = name ++ "(" ++ rest ∧ '(' ∉ name.toList := by
  unfold name?
  constructor
  · intro h
    split at h
    · next hmem =>
      cases h
      obtain ⟨before, rest, hlabel, hnone⟩ := List.eq_append_cons_of_mem hmem
      have hname : s.label.toList.takeWhile (· ≠ '(') = before := by
        rw [hlabel, List.takeWhile_append_of_pos fun c hc => ?_, List.takeWhile_cons_of_neg]
        · simp
        · simp
        · simpa using fun heq : c = '(' => hnone (heq ▸ hc)
      refine ⟨String.ofList rest, ?_, ?_⟩
      · rw [← String.toList_inj, hname, hlabel]
        simp
      · rwa [hname, String.toList_ofList]
    · cases h
  · rintro ⟨rest, hlabel, hnone⟩
    have hchars : s.label.toList = name.toList ++ '(' :: rest.toList := by
      rw [hlabel, String.toList_append, String.toList_append, List.append_assoc]
      rfl
    have hmem : '(' ∈ s.label.toList := by simp [hchars]
    rw [if_pos hmem, hchars, List.takeWhile_append_of_pos fun c hc => ?_,
      List.takeWhile_cons_of_neg]
    · simp
    · simp
    · simpa using fun heq : c = '(' => hnone (heq ▸ hc)

theorem name?_eq_none_iff : s.name? = none ↔ '(' ∉ s.label.toList := by
  simp [name?]

theorem parameterSpans?_eq_some_iff {active : Option UInt32} {index : Nat} {ps : List Parameter}
    {spans : List Span} :
    s.parameterSpans? active index ps = some spans ↔
      ∃ texts, List.Forall₂ (fun p t => s.parameterText? p.label = some t) ps texts ∧
        spans = StyledLabel.parameters active index texts := by
  induction ps generalizing index spans with
  | nil => simp [parameterSpans?, StyledLabel.parameters, eq_comm]
  | cons p ps ih =>
    simp only [parameterSpans?, Option.bind_eq_bind, Option.bind_eq_some_iff, Option.some.injEq, ih]
    constructor
    · rintro ⟨t, ht, _, ⟨texts, htexts, rfl⟩, rfl⟩
      exact ⟨t :: texts, .cons ht htexts, rfl⟩
    · rintro ⟨_, h, rfl⟩
      cases h with
      | cons ht htexts => exact ⟨_, ht, _, ⟨_, htexts, rfl⟩, rfl⟩

/-- A label is laid out from the name and the texts of all parameters. -/
theorem format?_eq_some_iff {active : Option UInt32} {l : StyledLabel} :
    s.format? active = some l ↔ ∃ name texts, s.name? = some name ∧
      List.Forall₂ (fun p t => s.parameterText? p.label = some t) s.parameterList texts ∧
      l = .ofTexts name active texts := by
  simp only [format?, Option.bind_eq_bind, Option.bind_eq_some_iff, Option.some.injEq,
    parameterSpans?_eq_some_iff]
  constructor
  · rintro ⟨name, hname, _, ⟨texts, htexts, rfl⟩, rfl⟩
    exact ⟨name, texts, hname, htexts, rfl⟩
  · rintro ⟨name, texts, hname, htexts, rfl⟩
    exact ⟨name, hname, _, ⟨texts, htexts, rfl⟩, rfl⟩

theorem format?_eq_none_iff {active : Option UInt32} :
    s.format? active = none ↔ s.name? = none ∨
      ∃ p ∈ s.parameterList, s.parameterText? p.label = none := by
  have hsome : (∃ l, s.format? active = some l) ↔ (∃ name, s.name? = some name) ∧
      ∀ p ∈ s.parameterList, ∃ t, s.parameterText? p.label = some t := by
    simp only [format?_eq_some_iff, ← exists_forall₂_iff]
    constructor
    · rintro ⟨_, name, texts, hname, htexts, rfl⟩
      exact ⟨⟨name, hname⟩, texts, htexts⟩
    · rintro ⟨⟨name, hname⟩, texts, htexts⟩
      exact ⟨_, name, texts, hname, htexts, rfl⟩
  simp only [← Option.isSome_iff_exists] at hsome
  rw [← Option.not_isSome_iff_eq_none, hsome]
  simp only [not_and_or, not_forall, Option.not_isSome_iff_eq_none, exists_prop]

/-- A signature has a label unless there is no parenthesis in its own, or a parameter has columns
that do not fit. The label spells the name, up to the first parenthesis, and in parentheses the
texts of the parameters with a comma and a space between them. The span of the parameter with the
active index is the one active span, and there is none if no parameter has this index. -/
theorem format?_spells (s : Signature) (active : Option UInt32)
    (h : unitLength s.label.toList < UInt32.size) :
    (s.format? active = none ↔ '(' ∉ s.label.toList ∨
      ∃ p ∈ s.parameterList, ∃ start stop, p.label = .columns start stop ∧
        (¬s.HasColumn start ∨ ¬s.HasColumn stop ∨ stop < start)) ∧
    ∀ l, s.format? active = some l → ∃ name rest texts,
      s.label = name ++ "(" ++ rest ∧ '(' ∉ name.toList ∧
      List.Forall₂ (fun p t => s.Denotes p.label t) s.parameterList texts ∧
      l.text = name ++ "(" ++ ", ".intercalate texts ++ ")" ∧
      (∀ i, active = some i → i.toNat < s.parameterList.length →
        ∃ t before after, texts[i.toNat]? = some t ∧ l.activeText? = some t ∧
          l.spans = before ++ ⟨t, .active⟩ :: after ∧
          (∀ span ∈ before ++ after, span.style ≠ .active) ∧
          StyledLabel.text ⟨before⟩ =
            name ++ "(" ++ String.join ((texts.take i.toNat).map (· ++ ", "))) ∧
      ((∀ i, active = some i → s.parameterList.length ≤ i.toNat) →
        l.activeText? = none ∧ ∀ span ∈ l.spans, span.style ≠ .active) := by
  refine ⟨?_, fun l hl => ?_⟩
  · simp only [format?_eq_none_iff, name?_eq_none_iff, parameterText?_eq_none_iff h]
  · obtain ⟨name, texts, hname, htexts, rfl⟩ := format?_eq_some_iff.mp hl
    obtain ⟨rest, hlabel, hnone⟩ := name?_eq_some_iff.mp hname
    simp only [parameterText?_eq_some_iff h] at htexts
    rw [htexts.length_eq]
    refine ⟨name, rest, texts, hlabel, hnone, htexts, StyledLabel.text_ofTexts name texts, ?_, ?_⟩
    · rintro i rfl hi
      have ht := List.getElem?_eq_getElem hi
      obtain ⟨before, after, hspans, hstyle, hbefore⟩ := StyledLabel.exists_active name ht
      have hactive := StyledLabel.activeText?_of_split hspans
        (List.forall_mem_append.mp hstyle).1
      exact ⟨_, before, after, ht, hactive, hspans, hstyle, hbefore⟩
    · intro hi
      have hstyle := StyledLabel.style_ofTexts name hi
      exact ⟨StyledLabel.activeText?_eq_none_iff.mpr hstyle, hstyle⟩

/-- Columns behind a surrogate pair, a parameter without characters, the last parameter active. -/
theorem format?_spells_columns :
    let s : Signature :=
      { label := "𝄞(é, y)"
        parameters := some [{ label := .columns 3 4 }, { label := .text "" },
          { label := .columns 6 7 }] }
    let l : StyledLabel :=
      ⟨[⟨"𝄞", .neutral⟩, ⟨"(", .punctuation⟩, ⟨"é", .neutral⟩, ⟨",", .punctuation⟩,
        ⟨" ", .neutral⟩, ⟨"", .neutral⟩, ⟨",", .punctuation⟩, ⟨" ", .neutral⟩, ⟨"y", .active⟩,
        ⟨")", .punctuation⟩]⟩
    unitLength s.label.toList < UInt32.size ∧ s.format? (some 2) = some l ∧
      ∃ name rest texts, s.label = name ++ "(" ++ rest ∧ '(' ∉ name.toList ∧
        List.Forall₂ (fun p t => s.Denotes p.label t) s.parameterList texts ∧
        l.text = name ++ "(" ++ ", ".intercalate texts ++ ")" ∧
        ∃ t before after, texts[2]? = some t ∧ l.activeText? = some t ∧
          l.spans = before ++ ⟨t, .active⟩ :: after ∧
          (∀ span ∈ before ++ after, span.style ≠ .active) ∧
          StyledLabel.text ⟨before⟩ =
            name ++ "(" ++ String.join ((texts.take 2).map (· ++ ", ")) := by
  intro s l
  have h : unitLength s.label.toList < UInt32.size := by decide
  have hl : s.format? (some 2) = some l := by decide +kernel
  obtain ⟨name, rest, texts, hlabel, hnone, htexts, htext, hactive, -⟩ :=
    (format?_spells s (some 2) h).2 l hl
  exact ⟨h, hl, name, rest, texts, hlabel, hnone, htexts, htext, hactive 2 rfl (by decide)⟩

end Signature

end EditorSession
