import EditorSession.Proofs.Signature.Spans

/-! The two ways to name the parameters of a signature.

A signature whose label is written from texts can name its parameters by these texts, or by the
columns at which they stand in the label (`columnsAfter`). Columns denote the texts
that they were counted from (`Signature.denotes_columnsAfter`), so both ways give the same label. -/

namespace EditorSession

/-- The columns of texts that stand one after another behind `before`, with a comma and a space
between them. -/
def columnsAfter : String → List String → List ParameterLabel
  | _, [] => []
  | before, t :: texts =>
    .columns (.ofNat (unitLength before.toList)) (.ofNat (unitLength (before ++ t).toList)) ::
      columnsAfter (before ++ t ++ ", ") texts

namespace Signature

variable {s : Signature}

/-- The columns around a part of the label denote it, as long as they fit into a word. -/
theorem denotes_columns (h : unitLength s.label.toList < UInt32.size) {a t b : String}
    (hlabel : s.label = a ++ t ++ b) :
    s.Denotes
      (.columns (.ofNat (unitLength a.toList)) (.ofNat (unitLength (a ++ t).toList))) t := by
  have hlength : unitLength s.label.toList =
      unitLength a.toList + unitLength t.toList + unitLength b.toList := by
    rw [hlabel, String.toList_append, String.toList_append, unitLength_append, unitLength_append]
  refine ⟨a, b, hlabel, ?_, ?_⟩
  · rw [UInt32.toNat_ofNat_of_lt' (by omega)]
  · rw [String.toList_append, unitLength_append, UInt32.toNat_ofNat_of_lt' (by omega)]

theorem denotes_columnsAfter (h : unitLength s.label.toList < UInt32.size) {before rest : String}
    {texts : List String} (hlabel : s.label = before ++ ", ".intercalate texts ++ rest) :
    List.Forall₂ s.Denotes (columnsAfter before texts) texts := by
  induction texts generalizing before with
  | nil => exact .nil
  | cons t texts ih =>
    cases texts with
    | nil =>
      rw [String.intercalate_singleton] at hlabel
      exact .cons (denotes_columns h hlabel) .nil
    | cons next texts =>
      rw [String.intercalate_cons_cons] at hlabel
      have hfirst : s.label =
          before ++ t ++ (", " ++ ", ".intercalate (next :: texts) ++ rest) := by
        rw [hlabel]
        simp only [String.append_assoc]
      have hlater : s.label =
          before ++ t ++ ", " ++ ", ".intercalate (next :: texts) ++ rest := by
        rw [hlabel]
        simp only [String.append_assoc]
      exact .cons (denotes_columns h hfirst) (ih hlater)

theorem denotes_text (texts : List String) :
    List.Forall₂ s.Denotes (texts.map .text) texts := by
  rw [List.forall₂_map_left_iff, List.forall₂_same]
  exact fun _ _ => rfl

/-- The label depends on the texts that the parameters denote, not on the way they are named. -/
theorem format?_of_denotes (h : unitLength s.label.toList < UInt32.size) {name rest : String}
    {texts : List String} (hname : '(' ∉ name.toList) (hlabel : s.label = name ++ "(" ++ rest)
    (htexts : List.Forall₂ s.Denotes (s.parameterList.map Parameter.label) texts)
    (active : Option UInt32) : s.format? active = some (.ofTexts name active texts) := by
  rw [List.forall₂_map_left_iff] at htexts
  apply format?_eq_some_iff.mpr
  refine ⟨name, texts, name?_eq_some_iff.mpr ⟨rest, hlabel, hname⟩, ?_, rfl⟩
  simpa only [parameterText?_eq_some_iff h] using htexts

/-- A signature that names its parameters by texts and one that names them by the columns of these
texts have the same label, which is the one of the signatures less what stands behind the closing
parenthesis. -/
theorem format?_text_eq_columns {byText byColumns : Signature} {name suffix : String}
    {texts : List String} (hname : '(' ∉ name.toList)
    (hlabel : byText.label = name ++ "(" ++ ", ".intercalate texts ++ ")" ++ suffix)
    (hsame : byColumns.label = byText.label)
    (hshort : unitLength byText.label.toList < UInt32.size)
    (htexts : byText.parameterList.map Parameter.label = texts.map .text)
    (hcolumns : byColumns.parameterList.map Parameter.label = columnsAfter (name ++ "(") texts)
    (active : Option UInt32) :
    ∃ l, byText.format? active = some l ∧ byColumns.format? active = some l ∧
      l.text ++ suffix = byText.label := by
  have hopen : byText.label = name ++ "(" ++ (", ".intercalate texts ++ ")" ++ suffix) := by
    rw [hlabel]
    simp only [String.append_assoc]
  have hinside : byColumns.label = name ++ "(" ++ ", ".intercalate texts ++ (")" ++ suffix) := by
    rw [hsame, hlabel]
    simp only [String.append_assoc]
  refine ⟨.ofTexts name active texts, ?_, ?_, ?_⟩
  · apply format?_of_denotes hshort hname hopen
    rw [htexts]
    exact denotes_text texts
  · rw [← hsame] at hshort hopen
    apply format?_of_denotes hshort hname hopen
    rw [hcolumns]
    exact denotes_columnsAfter hshort hinside
  · rw [StyledLabel.text_ofTexts, hlabel]

/-- Texts with a parenthesis, a surrogate pair and no characters, and a type behind them. -/
theorem format?_text_eq_columns_pair :
    let texts := ["(x, 𝄞", "", "é"]
    let byText : Signature :=
      { label := "f𝄞((x, 𝄞, , é): T"
        parameters := some (texts.map fun t => { label := .text t }) }
    let byColumns : Signature :=
      { label := "f𝄞((x, 𝄞, , é): T"
        parameters := some
          [{ label := .columns 4 10 }, { label := .columns 12 12 }, { label := .columns 14 15 }] }
    '(' ∉ "f𝄞".toList ∧
      byText.label = "f𝄞" ++ "(" ++ ", ".intercalate texts ++ ")" ++ ": T" ∧
      unitLength byText.label.toList < UInt32.size ∧
      byText.parameterList.map Parameter.label = texts.map .text ∧
      byColumns.parameterList.map Parameter.label = columnsAfter ("f𝄞" ++ "(") texts ∧
      ∃ l, byText.format? (some 2) = some l ∧ byColumns.format? (some 2) = some l ∧
        l.text ++ ": T" = byText.label := by
  intro texts byText byColumns
  have hname : '(' ∉ "f𝄞".toList := by decide
  have hsame : byColumns.label = byText.label := rfl
  have hlabel : byText.label = "f𝄞" ++ "(" ++ ", ".intercalate texts ++ ")" ++ ": T" := by
    decide +kernel
  have hshort : unitLength byText.label.toList < UInt32.size := by decide
  have hcolumns : byColumns.parameterList.map Parameter.label =
      columnsAfter ("f𝄞" ++ "(") texts := by decide +kernel
  exact ⟨hname, hlabel, hshort, rfl, hcolumns,
    format?_text_eq_columns hname hlabel hsame hshort rfl hcolumns (some 2)⟩

end Signature

end EditorSession
