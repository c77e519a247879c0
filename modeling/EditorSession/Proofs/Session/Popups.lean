import EditorSession.Proofs.Session.Effects

/-! When a client shows signature help.

`Client.Offers` says what there is to show: a signature with a label, and an editor of the file in
the host. Then the client keeps the signature and the popup of the host has its label, above the
caret of the editor, and without it nothing is kept and there is no popup
(`Client.popup_showSignature`). What is offered depends on the arguments and on the stage of the
host, which is its editors and its window, so what was on display before makes no difference. -/

namespace EditorSession

namespace Host

/-- What a popup is placed on. -/
def stage (h : Host) : List Editor × Viewport := (h.editors, h.viewport)

/-- The label on display and its place. -/
def popup (h : Host) : Option String × Option Point := (h.signatureLabel, h.signaturePosition)

/-- The popup of signature help for an editor. -/
def popupAt (h : Host) (e : Editor) (label : StyledLabel) : Option String × Option Point :=
  (some label.text, some (Popup.place e.cursorGeometry (labelSize label.text) h.viewport))

/-- The first editor that shows a file. -/
theorem editor?_eq_some_iff {h : Host} {cwd file : Path} {e : Editor} :
    h.editor? cwd file = some e ↔
      ∃ i : Nat, h.editors[i]? = some e ∧ Path.sameFile cwd e.file file ∧
        ∀ j < i, ∀ d, h.editors[j]? = some d → ¬Path.sameFile cwd d.file file := by
  constructor
  · intro he
    obtain ⟨i, hi, he⟩ := Option.bind_eq_some_iff.mp he
    obtain ⟨e', he', hs, hfirst⟩ := indexOf?_eq_some_iff.mp hi
    cases he.symm.trans he'
    exact ⟨i, he, hs, hfirst⟩
  · rintro ⟨i, he, hs, hfirst⟩
    rw [editor?_of_indexOf? (indexOf?_eq_some_iff.mpr ⟨e, he, hs, hfirst⟩), he]

theorem editor?_congr {h h' : Host} (hs : h'.stage = h.stage) (cwd file : Path) :
    h'.editor? cwd file = h.editor? cwd file := by
  have heditors : h'.editors = h.editors := congrArg Prod.fst hs
  simp only [editor?, indexOf?, heditors]

end Host

namespace Client

variable {Server : Type}

/-- There is signature help to show in a file: a host in which the first editor of the file is `e`,
and a signature that is picked and has a label. -/
structure Offers (c : Client Server) (cwd : Path) (help : Option SignatureHelp) (file : Path)
    (h : Host) (e : Editor) (shown : ShownSignature) : Prop where
  host : c.host = some h
  editor : ∃ i : Nat, h.editors[i]? = some e ∧ Path.sameFile cwd e.file file ∧
    ∀ j < i, ∀ d, h.editors[j]? = some d → ¬Path.sameFile cwd d.file file
  label : ∃ given signature, help = some given ∧ given.selected? = some signature ∧
    signature.format? given.activeParameter = some shown.label ∧
    shown.candidates = given.signatures ∧ shown.activeParameter = given.activeParameter

variable {c c' : Client Server} {cwd : Path} {help : Option SignatureHelp} {file : Path} {h : Host}
  {e : Editor} {shown : ShownSignature}

/-- Something is offered exactly if there are a host, a signature, a label and an editor. -/
theorem exists_offers_iff :
    (∃ h e shown, c.Offers cwd help file h e shown) ↔
      ∃ h given signature label, c.host = some h ∧ help = some given ∧
        given.selected? = some signature ∧
        signature.format? given.activeParameter = some label ∧
        ∃ e ∈ h.editors, Path.sameFile cwd e.file file := by
  constructor
  · rintro ⟨h, e, shown, hc, ⟨i, he, hs, -⟩, given, signature, hhelp, hpick, hlabel, -⟩
    exact ⟨h, given, signature, shown.label, hc, hhelp, hpick, hlabel, e,
      List.mem_of_getElem? he, hs⟩
  · rintro ⟨h, given, signature, label, hc, hhelp, hpick, hlabel, hopen⟩
    obtain ⟨e, he⟩ := Option.isSome_iff_exists.mp (Host.isSome_editor?_iff.mpr hopen)
    exact ⟨h, e, ⟨given.signatures, given.activeParameter, label⟩, hc,
      Host.editor?_eq_some_iff.mp he, given, signature, hhelp, hpick, hlabel, rfl, rfl⟩

theorem Offers.value_showSignature (ho : c.Offers cwd help file h e shown) :
    (c.showSignature cwd help file).value =
      { c with host := some (h.showSignature e shown.label).value, signature := some shown } := by
  obtain ⟨hc, heditor, given, signature, rfl, hpick, hlabel, hcandidates, hactive⟩ := ho
  obtain ⟨candidates, active, label⟩ := shown
  cases hcandidates
  cases hactive
  simp only [showSignature, hc, hpick, hlabel, Host.editor?_eq_some_iff.mpr heditor,
    Option.bind_some, Option.map_some]
  rfl

theorem value_showSignature_of_not_offers
    (hno : ¬∃ h e shown, c.Offers cwd help file h e shown) :
    (c.showSignature cwd help file).value = c.hideSignature := by
  rcases c.value_showSignature_cases cwd help file with
    hv | ⟨h, e, given, signature, label, hc, he, hhelp, hpick, hlabel, -⟩
  · exact hv
  · refine (hno ⟨h, e, ⟨given.signatures, given.activeParameter, label⟩, hc, ?_, ?_⟩).elim
    · exact Host.editor?_eq_some_iff.mp he
    · exact ⟨given, signature, hhelp, hpick, hlabel, rfl, rfl⟩

/-- What is kept is what was offered. -/
theorem signature_showSignature_eq_some_iff :
    (c.showSignature cwd help file).value.signature = some shown ↔
      ∃ h e, c.Offers cwd help file h e shown := by
  constructor
  · intro hs
    by_cases hex : ∃ h e shown, c.Offers cwd help file h e shown
    · obtain ⟨h, e, shown', ho⟩ := hex
      rw [ho.value_showSignature] at hs
      cases hs
      exact ⟨h, e, ho⟩
    · rw [value_showSignature_of_not_offers hex] at hs
      cases hs
  · rintro ⟨h, e, ho⟩
    rw [ho.value_showSignature]

/-- A client whose host has the same stage offers the same. -/
theorem Offers.congr (ho : c.Offers cwd help file h e shown)
    (hstage : c'.host.map Host.stage = c.host.map Host.stage) :
    ∃ h', c'.Offers cwd help file h' e shown ∧ h'.stage = h.stage := by
  rw [ho.host, Option.map_some] at hstage
  obtain ⟨h', hc', hs⟩ := Option.map_eq_some_iff.mp hstage
  refine ⟨h', ⟨hc', ?_, ho.label⟩, hs⟩
  rw [← Host.editor?_eq_some_iff, Host.editor?_congr hs, Host.editor?_eq_some_iff]
  exact ho.editor

/-- Nothing changes but what the client keeps of signature help, and the popup of its host. -/
theorem showSignature_frame (c : Client Server) (cwd : Path) (help : Option SignatureHelp)
    (file : Path) :
    let after := (c.showSignature cwd help file).value
    ∃ label position, after =
      { c with signature := after.signature
               host := c.host.map fun h =>
                { h with signatureLabel := label, signaturePosition := position } } := by
  intro after
  by_cases hex : ∃ h e shown, c.Offers cwd help file h e shown
  · obtain ⟨h, e, shown, ho⟩ := hex
    have hv : after = _ := ho.value_showSignature
    refine ⟨some shown.label.text, (h.popupAt e shown.label).2, ?_⟩
    rw [hv, ho.host]
    rfl
  · have hv : after = _ := value_showSignature_of_not_offers hex
    refine ⟨none, none, ?_⟩
    rw [hv]
    rfl

theorem map_popup_hideSignature (c : Client Server) :
    c.hideSignature.host.map Host.popup = c.host.map fun _ => (none, none) := by
  simp only [hideSignature, Option.map_map]
  rfl

/-- What is shown is decided by the arguments and the stage of the host. -/
theorem showSignature_congr (hstage : c'.host.map Host.stage = c.host.map Host.stage) :
    (c'.showSignature cwd help file).value.signature =
        (c.showSignature cwd help file).value.signature ∧
      (c'.showSignature cwd help file).value.host.map Host.popup =
        (c.showSignature cwd help file).value.host.map Host.popup := by
  by_cases hex : ∃ h e shown, c.Offers cwd help file h e shown
  · obtain ⟨h, e, shown, ho⟩ := hex
    obtain ⟨h', ho', hs⟩ := ho.congr hstage
    have hviewport : h'.viewport = h.viewport := congrArg Prod.snd hs
    have hpopup : h'.popupAt e shown.label = h.popupAt e shown.label := by
      rw [Host.popupAt, Host.popupAt, hviewport]
    rw [ho.value_showSignature, ho'.value_showSignature]
    exact ⟨rfl, congrArg some hpopup⟩
  · have hno : ¬∃ h e shown, c'.Offers cwd help file h e shown := by
      rintro ⟨h', e, shown, ho'⟩
      obtain ⟨h, ho, -⟩ := ho'.congr hstage.symm
      exact hex ⟨h, e, shown, ho⟩
    have hnone :=
      congrArg (Option.map fun _ => ((none, none) : Option String × Option Point)) hstage
    simp only [Option.map_map, Function.comp_def] at hnone
    rw [value_showSignature_of_not_offers hex, value_showSignature_of_not_offers hno,
      map_popup_hideSignature, map_popup_hideSignature]
    exact ⟨rfl, hnone⟩

/-- A client shows signature help exactly if a host is attached, a signature is picked and has a
label, and an editor shows the file. Then it keeps the signatures, the active parameter and the
label, and the popup has the text of the label. It is one row high, with a cell for every character,
and its place is for the column of the caret of the editor and the lower edge of the line of the
caret, in rows of height one and without scrolling. In every other case, and whenever signature help
is hidden, nothing is kept and a host has no popup. Apart from the popup all is as before, and what
was on display before makes no difference. -/
theorem popup_showSignature (c : Client Server) (cwd : Path) (help : Option SignatureHelp)
    (file : Path) :
    let after := (c.showSignature cwd help file).value
    ((∃ shown, after.signature = some shown) ↔
      ∃ h given signature label, c.host = some h ∧ help = some given ∧
        given.selected? = some signature ∧
        signature.format? given.activeParameter = some label ∧
        ∃ e ∈ h.editors, Path.sameFile cwd e.file file) ∧
    (∀ shown, after.signature = some shown ↔ ∃ h e, c.Offers cwd help file h e shown) ∧
    (∀ h e shown, c.Offers cwd help file h e shown →
      ∃ h', after.host = some h' ∧ h'.signatureLabel = some shown.label.text ∧
        h'.signaturePosition = some (Popup.place
          { x := e.cursor.character.toFloat32, y := (e.cursor.line + 1).toFloat32
            rowHeight := 1, scrollY := 0 }
          { width := Float32.ofNat shown.label.text.toList.length, height := 1 } h.viewport)) ∧
    (after.signature = none → ∀ h', after.host = some h' →
      h'.signatureLabel = none ∧ h'.signaturePosition = none) ∧
    (∃ label position, after =
      { c with signature := after.signature
               host := c.host.map fun h =>
                { h with signatureLabel := label, signaturePosition := position } }) ∧
    (∀ c' : Client Server, c'.host.map Host.stage = c.host.map Host.stage →
      (c'.showSignature cwd help file).value.signature = after.signature ∧
      (c'.showSignature cwd help file).value.host.map Host.popup = after.host.map Host.popup) ∧
    c.hideSignature.signature = none ∧
    ∀ h', c.hideSignature.host = some h' →
      h'.signatureLabel = none ∧ h'.signaturePosition = none := by
  intro after
  have hhide : ∀ h', c.hideSignature.host = some h' →
      h'.signatureLabel = none ∧ h'.signaturePosition = none := by
    intro h' hh
    obtain ⟨h, -, rfl⟩ := Option.map_eq_some_iff.mp hh
    exact ⟨rfl, rfl⟩
  have hshown (shown) : after.signature = some shown ↔
      ∃ h e, c.Offers cwd help file h e shown := signature_showSignature_eq_some_iff
  refine ⟨?_, hshown, fun h e shown ho => ?_, fun hnone => ?_, c.showSignature_frame cwd help file,
    fun c' hstage => showSignature_congr hstage, rfl, hhide⟩
  · rw [← exists_offers_iff]
    simp only [hshown]
    constructor
    · rintro ⟨shown, h, e, ho⟩
      exact ⟨h, e, shown, ho⟩
    · rintro ⟨h, e, shown, ho⟩
      exact ⟨shown, h, e, ho⟩
  · have hv : after = _ := ho.value_showSignature
    rw [hv]
    exact ⟨_, rfl, rfl, rfl⟩
  · have hno : ¬∃ h e shown, c.Offers cwd help file h e shown := by
      rintro ⟨h, e, shown, ho⟩
      cases hnone.symm.trans ((hshown shown).mpr ⟨h, e, ho⟩)
    have hv : after = _ := value_showSignature_of_not_offers hno
    rw [hv]
    exact hhide

end Client

end EditorSession
