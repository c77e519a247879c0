import EditorSession.Proofs.Search.Groups
import EditorSession.Proofs.Session.Mirror

/-! When the list of search results is flagged as empty.

A batch is the list of places that an operation looks up: places as they are given, or the targets
of links (`Op.batch?`). Each batch sets the flag of the host and replaces its results, and no other
operation touches them (`Session.results_step`). The flag says whether the batch is empty, while a
result is there exactly if a place of the batch has text in the session before
(`Search.total_build_eq_zero_iff`). So the two agree except after a batch of places that have none
(`Session.searchEmpty_run_iff`). -/

namespace EditorSession

variable {Server : Type}

/-- The places that an operation looks up. Links without a target are left out, and an empty list of
links is not looked at. -/
def Op.batch? : Op Server → Option (List SparseLocation)
  | showLocations locations => some locations
  | showLinks (link :: links) =>
    some (((link :: links).filterMap SparseLink.target?).map Location.toSparse)
  | _ => none

/-- The search results of a host, and whether they are flagged as empty. -/
def Host.results (h : Host) : Bool × SearchResults := (h.searchEmpty, h.searchResults)

theorem Host.results_of_view {h h' : Host} (hv : h'.view = h.view) : h'.results = h.results := by
  have hresults : h'.view.results = h.view.results := congrArg Host.results hv
  exact hresults

/-- A list of places gives no result exactly if none of them has text. -/
theorem Search.total_build_eq_zero_iff {w : World} {openText : OpenText}
    {batch : List SparseLocation} :
    (build w openText batch).value.total = 0 ↔
      ∀ l ∈ batch, ¬∃ file range content, l.HasText w openText file range content := by
  have hvalue : (build w openText batch).value =
      (batch.filterMap (result? w openText)).foldl SearchResults.push {} :=
    value_buildFrom {} 0 batch
  rw [hvalue, SearchResults.total_foldl_push, List.length_eq_zero_iff, List.filterMap_eq_nil_iff]
  refine forall₂_congr fun l _ => ?_
  rw [Option.eq_none_iff_forall_ne_some, ← not_exists, ← exists_found_iff]
  simp only [result?_eq_some_iff]

namespace Session

/-- The text of the open editors by file. -/
def openText (s : Session Server) : Search.OpenText := fun file =>
  s.client.host.bind fun h => h.openText s.world.cwd file

/-- The place has text, in an editor or on disk. -/
def Finds (s : Session Server) (l : SparseLocation) : Prop :=
  ∃ file range content, l.HasText s.world s.openText file range content

variable {s : Session Server} {op : Op Server} {ops : List (Op Server)}
  {batch : List SparseLocation}

/-! ### One operation -/

theorem results_changeHost {f : Host → Logged Host} (hf : ∀ h, (f h).value.view = h.view) :
    (s.changeHost f).session.client.host.map Host.results = s.client.host.map Host.results := by
  rcases s.changeHost_cases f with heq | ⟨h, hh, heq⟩ <;> rw [heq]
  rw [hh]
  exact congrArg some (Host.results_of_view (hf h))

theorem results_changeEditor (file : Option Path) (f : Editor → Editor) :
    (s.changeEditor file f).session.client.host.map Host.results =
      s.client.host.map Host.results := by
  rcases s.changeEditor_cases file f with heq | ⟨h, i, hh, heq⟩ <;> rw [heq]
  rw [hh]
  exact congrArg some (Host.results_of_view (h.view_modifyEditor i f))

theorem results_publish (c : Client Server) (w : World) (p : SparsePublication) :
    (c.publish w p).value.host.map Host.results = c.host.map Host.results := by
  cases he : p.effect? w with
  | none =>
    rw [Client.value_publish_of_none _ he]
    exact Option.map_map ..
  | some e =>
    rw [Client.value_publish_of_some _ he]
    exact Option.map_map ..

theorem results_highlight (c : Client Server) (cwd : Path) (highlights : Highlights) :
    (c.highlight cwd highlights).value.host.map Host.results = c.host.map Host.results := by
  rw [Client.value_highlight]
  split
  · exact Option.map_map ..
  · rfl

theorem results_showSignature (c : Client Server) (cwd : Path) (help : Option SignatureHelp)
    (file : Path) :
    (c.showSignature cwd help file).value.host.map Host.results = c.host.map Host.results := by
  rcases c.value_showSignature_cases cwd help file with
    hv | ⟨h, e, given, signature, label, hc, -, -, -, -, hv⟩ <;> rw [hv]
  · exact Option.map_map ..
  · rw [hc]
    rfl

theorem results_showDocument (c : Client Server) (w : World) (p : SparseShowRequest) :
    (c.showDocument w p).value.1.host.map Host.results = c.host.map Host.results := by
  cases hc : c.host with
  | none => rw [Client.value_showDocument_of_none hc, hc]
  | some h =>
    rw [Client.value_showDocument_of_some hc]
    exact congrArg some (Host.results_of_view (h.view_showDocument w p))

theorem results_showLocations {h : Host} (hh : s.client.host = some h)
    (batch : List SparseLocation) :
    (s.client.showLocations s.world batch).value.host.map Host.results =
      some (batch.isEmpty, (Search.build s.world s.openText batch).value) := by
  have htext : s.openText = h.openText s.world.cwd := by
    unfold openText
    rw [hh]
    rfl
  rw [Client.value_showLocations_of_some hh, htext]
  rfl

theorem results_step_of_direct (hop : op.direct? = some op) (hl : op.isLifecycle = false)
    (hb : op.batch? = none) :
    (s.step op).session.client.host.map Host.results = s.client.host.map Host.results := by
  cases op
  case attachHost => cases hl
  case detachHost => cases hl
  case endSession => cases hl
  case showLocations => cases hb
  case dispatch m => exact absurd hop (Op.direct?_ne_dispatch _ m)
  case openEditor => exact results_changeHost fun h => h.view_openEditor _ _
  case openAndSelect => exact results_changeHost fun h => h.view_openAndSelect _ _ _
  case setCaret => exact results_changeEditor _ _
  case selectRegion => exact results_changeEditor _ _
  case publish p => exact results_publish s.client s.world p
  case highlight highlights => exact results_highlight s.client s.world.cwd highlights
  case showSignature help file => exact results_showSignature s.client s.world.cwd help file
  case hideSignature => exact Option.map_map ..
  case showLinks links =>
    cases links with
    | nil => rfl
    | cons => cases hb
  case showDocument p => exact results_showDocument s.client s.world p
  all_goals rfl

/-- An operation that looks up no places leaves the results and their flag. -/
theorem results_step (hl : op.isLifecycle = false) (hb : op.batch? = none) :
    (s.step op).session.client.host.map Host.results = s.client.host.map Host.results := by
  refine step_of_direct
    (P := fun after => after.client.host.map Host.results = s.client.host.map Host.results)
    (fun _ => rfl) fun op' hd => ?_
  have hkeeps : op'.isLifecycle = false ∧ op'.batch? = none := by
    rcases Op.direct?_eq_some hd with rfl | ⟨_, rfl⟩ | ⟨_, rfl⟩ | ⟨_, rfl⟩ | ⟨_, rfl⟩
    · exact ⟨hl, hb⟩
    all_goals exact ⟨rfl, rfl⟩
  exact results_step_of_direct (Op.direct?_of_direct hd) hkeeps.1 hkeeps.2

/-- A batch sets the flag if it is empty, and replaces the results by those of its places. -/
theorem results_step_of_batch {h : Host} (hh : s.client.host = some h)
    (hb : op.batch? = some batch) :
    (s.step op).session.client.host.map Host.results =
      some (batch.isEmpty, (Search.build s.world s.openText batch).value) := by
  cases op
  case showLocations =>
    cases hb
    exact results_showLocations hh _
  case showLinks links =>
    cases links with
    | nil => cases hb
    | cons =>
      cases hb
      exact results_showLocations hh _
  all_goals cases hb

/-! ### Runs -/

theorem results_run (hl : ∀ op ∈ ops, op.isLifecycle = false) (hb : ∀ op ∈ ops, op.batch? = none) :
    (s.run ops).client.host.map Host.results = s.client.host.map Host.results := by
  induction ops generalizing s with
  | nil => rfl
  | cons op ops ih =>
    obtain ⟨hl, hls⟩ := List.forall_mem_cons.mp hl
    obtain ⟨hb, hbs⟩ := List.forall_mem_cons.mp hb
    rw [run_cons, ih hls hbs, results_step hl hb]

/-- The last batch of a run decides. -/
theorem results_run_of_batch {earlier later : List (Op Server)} {h : Host}
    (hh : (s.run earlier).client.host = some h) (hb : op.batch? = some batch)
    (hl : ∀ o ∈ later, o.isLifecycle = false) (hlater : ∀ o ∈ later, o.batch? = none) :
    (s.run (earlier ++ op :: later)).client.host.map Host.results =
      some (batch.isEmpty,
        (Search.build (s.run earlier).world (s.run earlier).openText batch).value) := by
  rw [run_append, run_cons, results_run hl hlater, results_step_of_batch hh hb]

/-- The flag says whether the last batch is empty, and there is a result exactly if one of its
places has text. -/
theorem searchEmpty_iff_of_batch {earlier later : List (Op Server)} {before h : Host}
    (hbefore : (s.run earlier).client.host = some before) (hb : op.batch? = some batch)
    (hl : ∀ o ∈ later, o.isLifecycle = false) (hlater : ∀ o ∈ later, o.batch? = none)
    (hh : (s.run (earlier ++ op :: later)).client.host = some h) :
    (h.searchEmpty = true ↔ batch = []) ∧
      (h.searchResults.total = 0 ↔ ∀ l ∈ batch, ¬(s.run earlier).Finds l) := by
  have hresults := results_run_of_batch hbefore hb hl hlater
  rw [hh] at hresults
  obtain ⟨hempty, hlist⟩ := Prod.mk.inj (Option.some.inj hresults)
  rw [hempty, hlist, Search.total_build_eq_zero_iff, List.isEmpty_iff]
  exact ⟨.rfl, .rfl⟩

/-- A run looks up no places, or there is a last batch. -/
theorem exists_last_batch (ops : List (Op Server)) :
    (∀ op ∈ ops, op.batch? = none) ∨ ∃ earlier op later batch,
      ops = earlier ++ op :: later ∧ op.batch? = some batch ∧ ∀ o ∈ later, o.batch? = none := by
  induction ops with
  | nil => exact .inl (List.forall_mem_nil _)
  | cons op ops ih =>
    rcases ih with hnone | ⟨earlier, op', later, batch, rfl, hb, hlater⟩
    · cases hb : op.batch? with
      | none => exact .inl (List.forall_mem_cons.mpr ⟨hb, hnone⟩)
      | some batch => exact .inr ⟨[], op, ops, batch, rfl, hb, hnone⟩
    · exact .inr ⟨op :: earlier, op', later, batch, rfl, hb, hlater⟩

/-- The flag and the results of a host that was fresh at the beginning of a run and stays attached.
As long as there is no batch the list is empty, and flagged so. From then on the last batch decides:
the flag says whether it is empty, and there is a result if and only if one of its places has text
in the session before it. So a list that is flagged as empty has no result, and an empty list is
flagged so unless its batch has places, none of which has text. -/
theorem searchEmpty_run_iff (connection : Connection Server) (w : World) (columns rows : UInt16)
    (ops : List (Op Server)) (hl : ∀ op ∈ ops, op.isLifecycle = false) :
    let client : Client Server := { connection }
    let start : Session Server := ⟨client.attachHost (.ofSize columns rows), w⟩
    ∃ h, (start.run ops).client.host = some h ∧
      (h.searchEmpty = true → h.searchResults.total = 0) ∧
      ((∀ op ∈ ops, op.batch? = none) → h.searchEmpty = true ∧ h.searchResults.total = 0) ∧
      ∀ earlier op later batch, ops = earlier ++ op :: later → op.batch? = some batch →
        (∀ o ∈ later, o.batch? = none) →
        (h.searchEmpty = true ↔ batch = []) ∧
        (h.searchResults.total = 0 ↔ ∀ l ∈ batch, ¬(start.run earlier).Finds l) ∧
        ((h.searchEmpty = true ↔ h.searchResults.total = 0) ↔
          batch = [] ∨ ∃ l ∈ batch, (start.run earlier).Finds l) := by
  intro client start
  have hstart : start.Mirrored true := ⟨_, rfl, ⟨rfl, rfl, rfl, rfl⟩, rfl⟩
  obtain ⟨h, hh, -⟩ := mirrored_run hl hstart
  have hnone (hb : ∀ op ∈ ops, op.batch? = none) :
      h.searchEmpty = true ∧ h.searchResults.total = 0 := by
    have hresults := results_run (s := start) hl hb
    rw [hh] at hresults
    have hfresh : h.results = (true, {}) := Option.some.inj hresults
    obtain ⟨hempty, hlist⟩ := Prod.mk.inj hfresh
    rw [hempty, hlist]
    exact ⟨rfl, rfl⟩
  have hlast {earlier op later batch} (heq : ops = earlier ++ op :: later)
      (hb : op.batch? = some batch) (hlater : ∀ o ∈ later, o.batch? = none) :
      (h.searchEmpty = true ↔ batch = []) ∧
        (h.searchResults.total = 0 ↔ ∀ l ∈ batch, ¬(start.run earlier).Finds l) := by
    subst heq
    obtain ⟨hearlier, hrest⟩ := List.forall_mem_append.mp hl
    obtain ⟨before, hbefore, -⟩ := mirrored_run hearlier hstart
    exact searchEmpty_iff_of_batch hbefore hb (List.forall_mem_cons.mp hrest).2 hlater hh
  refine ⟨h, hh, fun hempty => ?_, hnone, fun earlier op later batch heq hb hlater => ?_⟩
  · rcases exists_last_batch ops with hno | ⟨earlier, op, later, batch, heq, hb, hlater⟩
    · exact (hnone hno).2
    · obtain ⟨hflag, htotal⟩ := hlast heq hb hlater
      rw [htotal, hflag.mp hempty]
      exact List.forall_mem_nil _
  · obtain ⟨hflag, htotal⟩ := hlast heq hb hlater
    refine ⟨hflag, htotal, ?_⟩
    rw [hflag, htotal]
    -- An empty batch has no place with text, so only a batch with places can be flagged wrongly.
    constructor
    · intro hiff
      by_contra hno
      obtain ⟨hne, hfinds⟩ := not_or.mp hno
      exact hne (hiff.mpr fun l hl hf => hfinds ⟨l, hl, hf⟩)
    · rintro (rfl | ⟨l, hl, hf⟩)
      · exact iff_of_true rfl (List.forall_mem_nil _)
      · exact iff_of_false (List.ne_nil_of_mem hl) fun hnot => hnot l hl hf

/-- A place in an editor, links without a target and a place in a file that is missing. -/
theorem searchEmpty_run_iff_links :
    let file (name : String) : Url :=
      { scheme := "file", authority := none, path := .rooted [name] }
    let ops : List (Op Unit) :=
      [.openEditor (.ofString "/a") "text",
        .showLocations [{ uri := some (file "a"), range := some {} }], .showLinks [{}],
        .showLocations [{ uri := some (file "b"), range := some {} }]]
    let w : World := { cwd := .ofString "/", disk := ⟨[([[0x61]], .file [])]⟩ }
    let start : Session Unit := ⟨Client.attachHost {} (.ofSize 80 24), w⟩
    (∀ op ∈ ops, op.isLifecycle = false) ∧ ∃ h, (start.run ops).client.host = some h ∧
      (h.searchEmpty = true → h.searchResults.total = 0) ∧
      ((∀ op ∈ ops, op.batch? = none) → h.searchEmpty = true ∧ h.searchResults.total = 0) ∧
      ∀ earlier op later batch, ops = earlier ++ op :: later → op.batch? = some batch →
        (∀ o ∈ later, o.batch? = none) →
        (h.searchEmpty = true ↔ batch = []) ∧
        (h.searchResults.total = 0 ↔ ∀ l ∈ batch, ¬(start.run earlier).Finds l) ∧
        ((h.searchEmpty = true ↔ h.searchResults.total = 0) ↔
          batch = [] ∨ ∃ l ∈ batch, (start.run earlier).Finds l) := by
  intro file ops w start
  have hl : ∀ op ∈ ops, op.isLifecycle = false := by simp [ops, Op.isLifecycle]
  exact ⟨hl, searchEmpty_run_iff {} w 80 24 ops hl⟩

/-- A place in a file that is missing gives an empty list that is not flagged as empty. -/
theorem not_searchEmpty_missing_file :
    let file : Url := { scheme := "file", authority := none, path := .rooted ["a"] }
    let ops : List (Op Unit) := [.showLocations [{ uri := some file, range := some {} }]]
    let w : World := { cwd := .ofString "/", disk := {} }
    let start : Session Unit := ⟨Client.attachHost {} (.ofSize 80 24), w⟩
    (∀ op ∈ ops, op.isLifecycle = false) ∧ ∃ h, (start.run ops).client.host = some h ∧
      h.searchEmpty = false ∧ h.searchResults.total = 0 ∧
      ¬(h.searchEmpty = true ↔ h.searchResults.total = 0) := by
  intro file ops w start
  obtain ⟨h, hh⟩ : ∃ h, (start.run ops).client.host = some h := ⟨_, rfl⟩
  have hempty : (start.run ops).client.host.map (·.searchEmpty) = some false := by decide +kernel
  have htotal : (start.run ops).client.host.map (·.searchResults.total) = some 0 := by
    decide +kernel
  rw [hh, Option.map_some, Option.some.injEq] at hempty htotal
  refine ⟨List.forall_mem_singleton.mpr rfl, h, hh, hempty, htotal, ?_⟩
  rw [hempty, htotal]
  decide

end Session

end EditorSession
