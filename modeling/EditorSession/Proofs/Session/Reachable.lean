import EditorSession.Proofs.Session.Effects

/-! The hosts that a session can have, and what a request to show a document does in them.

A host begins without editors. Operations of a client change it, the application may change anything
in an editor but its file, and a host that is taken from a client may be given to another. Whatever
happens, the host of a reachable session is valid (`Session.valid_of_reachable`): every file has one
editor at most, and lookups find it (`Session.editors_of_reachable`). -/

namespace EditorSession

namespace Host

variable {cwd : Path} {h : Host} {w : World}

theorem Valid.openAndSelect (hv : h.Valid w.cwd) (file : Path) (r : Range) :
    (h.openAndSelect w file r).value.Valid w.cwd := by
  cases ht : w.readText file with
  | ok text =>
    rw [h.value_openAndSelect r ht]
    exact hv.reveal
  | error cause =>
    -- An editor that is found is used, and it does not matter that the file cannot be read.
    have hreveal : (h.reveal w.cwd file "" r).Valid w.cwd := hv.reveal
    unfold Host.openAndSelect
    cases hi : h.indexOf? w.cwd file with
    | some i => rwa [Host.reveal, hi] at hreveal
    | none =>
      simp only [ht]
      exact hv

theorem Valid.showDocument (hv : h.Valid w.cwd) (p : SparseShowRequest) :
    (h.showDocument w p).value.1.Valid w.cwd := by
  rcases hv.value_showDocument_cases p with ⟨file, range, text, -, heq⟩ | ⟨-, heq⟩ <;> rw [heq]
  · exact hv.reveal
  · exact hv

theorem Valid.presentDiagnostics (hv : h.Valid cwd) (store : DiagnosticStore)
    (e : Path × List Diagnostic) : (h.presentDiagnostics cwd store e).Valid cwd := by
  have he : (h.editFile cwd e.1 fun editor => { editor with diagnostics := e.2 }).Valid cwd :=
    hv.editFile e.1 fun _ => rfl
  exact he.of_files rfl rfl

end Host

variable {Server : Type}

namespace Session

/-- The sessions that can come about: by operations, by changes in editors, and by hosts that are
fresh or come from another session. -/
inductive Reachable : Session Server → Prop
  | new (connection : Connection Server) (w : World) : Reachable ⟨{ connection }, w⟩
  | step {s : Session Server} (hs : Reachable s) (op : Op Server) (hop : ∀ h, op ≠ .attachHost h) :
    Reachable (s.step op).session
  | attachNew {s : Session Server} (hs : Reachable s) (columns rows : UInt16) :
    Reachable (s.step (.attachHost (.ofSize columns rows))).session
  | attachAgain {s t : Session Server} {h : Host} (hs : Reachable s) (ht : Reachable t)
    (hh : t.client.host = some h) (hcwd : t.world.cwd = s.world.cwd) :
    Reachable (s.step (.attachHost h)).session
  | edit {s : Session Server} {h : Host} (hs : Reachable s) (hh : s.client.host = some h) (i : Nat)
    {f : Editor → Editor} (hf : ∀ e, (f e).file = e.file) :
    Reachable (s.withClient { s.client with host := some (h.modifyEditor i f) })

theorem Reachable.run {s : Session Server} (hs : s.Reachable) {ops : List (Op Server)}
    (hops : ∀ op ∈ ops, ∀ h, op ≠ .attachHost h) : (s.run ops).Reachable := by
  induction ops generalizing s with
  | nil => exact hs
  | cons op ops ih =>
    exact ih (hs.step op (hops op List.mem_cons_self)) fun op' h => hops op' (.tail _ h)

/-- The host of the session, if there is one, is valid. -/
def Valid (s : Session Server) : Prop := ∀ h, s.client.host = some h → h.Valid s.world.cwd

variable {s : Session Server}

theorem Valid.some {c : Client Server} {w : World} {h : Host} (hc : c.host = some h)
    (hv : h.Valid w.cwd) : Valid ⟨c, w⟩ := by
  intro h' hh
  cases hc.symm.trans hh
  exact hv

/-- The host may change to a valid one, and all else but the current directory to anything. -/
theorem Valid.map {c : Client Server} {w : World} (hs : s.Valid) (hw : w.cwd = s.world.cwd)
    {f : Host → Host} (hc : c.host = s.client.host.map f)
    (hf : ∀ h, h.Valid s.world.cwd → (f h).Valid s.world.cwd) : Valid ⟨c, w⟩ := by
  intro h' hh
  obtain ⟨h, hsh, rfl⟩ := Option.map_eq_some_iff.mp (hc.symm.trans hh)
  change (f h).Valid w.cwd
  rw [hw]
  exact hf h (hs h hsh)

theorem Valid.changeHost (hs : s.Valid) {f : Host → Logged Host}
    (hf : ∀ h, h.Valid s.world.cwd → (f h).value.Valid s.world.cwd) :
    (s.changeHost f).session.Valid := by
  rcases s.changeHost_cases f with heq | ⟨h, hh, heq⟩ <;> rw [heq]
  · exact hs
  · exact .some rfl (hf h (hs h hh))

theorem Valid.changeEditor (hs : s.Valid) (file : Option Path) {f : Editor → Editor}
    (hf : ∀ e, (f e).file = e.file) : (s.changeEditor file f).session.Valid := by
  rcases s.changeEditor_cases file f with heq | ⟨h, i, hh, heq⟩ <;> rw [heq]
  · exact hs
  · exact .some rfl ((hs h hh).modifyEditor i hf)

theorem Valid.publish (hs : s.Valid) (p : SparsePublication) :
    (s.step (.publish p)).session.Valid := by
  change Valid ⟨(s.client.publish s.world p).value, s.world⟩
  cases he : p.effect? s.world with
  | none =>
    rw [Client.value_publish_of_none _ he]
    exact hs.map rfl rfl fun h hv => hv.of_files rfl rfl
  | some e =>
    rw [Client.value_publish_of_some _ he]
    exact hs.map rfl rfl fun h hv => hv.presentDiagnostics _ e

theorem Valid.highlight (hs : s.Valid) (highlights : Highlights) :
    (s.step (.highlight highlights)).session.Valid := by
  change Valid ⟨(s.client.highlight s.world.cwd highlights).value, s.world⟩
  rw [Client.value_highlight]
  split
  · next file _ => exact hs.map rfl rfl fun h hv => hv.editFile file fun _ => rfl
  · exact hs

theorem Valid.hideSignature (hs : s.Valid) : Valid ⟨s.client.hideSignature, s.world⟩ :=
  hs.map rfl rfl fun _ hv => hv.of_files rfl rfl

theorem Valid.showSignature (hs : s.Valid) (help : Option SignatureHelp) (file : Path) :
    (s.step (.showSignature help file)).session.Valid := by
  change Valid ⟨(s.client.showSignature s.world.cwd help file).value, s.world⟩
  rcases s.client.value_showSignature_cases s.world.cwd help file with
    hv | ⟨h, e, given, signature, label, hh, -, -, -, -, hv⟩
  · rw [hv]
    exact hs.hideSignature
  · rw [hv]
    exact .some rfl ((hs h hh).of_files rfl rfl)

theorem Valid.showLocations (hs : s.Valid) (locations : List SparseLocation) :
    (s.step (.showLocations locations)).session.Valid := by
  change Valid ⟨(s.client.showLocations s.world locations).value, s.world⟩
  cases hh : s.client.host with
  | none =>
    rw [Client.value_showLocations_of_none hh]
    exact hs
  | some h =>
    rw [Client.value_showLocations_of_some hh]
    exact .some rfl ((hs h hh).of_files rfl rfl)

theorem Valid.showLinks (hs : s.Valid) (links : List SparseLink) :
    (s.step (.showLinks links)).session.Valid := by
  change Valid ⟨(s.client.showLinks s.world links).value, s.world⟩
  rcases s.client.value_showLinks_cases s.world links with heq | ⟨locations, heq⟩ <;> rw [heq]
  · exact hs
  · exact hs.showLocations locations

theorem Valid.showDocument (hs : s.Valid) (p : SparseShowRequest) :
    (s.step (.showDocument p)).session.Valid := by
  change Valid ⟨(s.client.showDocument s.world p).value.1, s.world⟩
  cases hh : s.client.host with
  | none =>
    rw [Client.value_showDocument_of_none hh]
    exact hs
  | some h =>
    rw [Client.value_showDocument_of_some hh]
    exact .some rfl ((hs h hh).showDocument p)

theorem valid_step_of_direct {op : Op Server} (hop : op.direct? = some op)
    (hattach : ∀ h, op = .attachHost h → h.Valid s.world.cwd) (hs : s.Valid) :
    (s.step op).session.Valid := by
  cases op
  case attachHost h => exact .some rfl (hattach h rfl)
  case detachHost => exact fun _ hh => nomatch hh
  case dispatch m => exact absurd hop (Op.direct?_ne_dispatch _ m)
  case openEditor => exact hs.changeHost fun _ hv => hv.openEditor _
  case openAndSelect => exact hs.changeHost fun _ hv => hv.openAndSelect _ _
  case setCaret => exact hs.changeEditor _ fun _ => rfl
  case selectRegion => exact hs.changeEditor _ fun _ => rfl
  case publish p => exact hs.publish p
  case highlight highlights => exact hs.highlight highlights
  case showSignature help file => exact hs.showSignature help file
  case hideSignature => exact hs.hideSignature
  case showLocations locations => exact hs.showLocations locations
  case showLinks links => exact hs.showLinks links
  case showDocument p => exact hs.showDocument p
  all_goals exact hs

/-- Every operation leaves the host valid; a host that is attached has to be. -/
theorem valid_step {op : Op Server} (hattach : ∀ h, op = .attachHost h → h.Valid s.world.cwd)
    (hs : s.Valid) : (s.step op).session.Valid := by
  refine step_of_direct (P := Valid) (fun _ => hs) fun op' hd => ?_
  refine valid_step_of_direct (Op.direct?_of_direct hd) (fun h hop => ?_) hs
  rcases Op.direct?_eq_some hd with rfl | ⟨_, rfl⟩ | ⟨_, rfl⟩ | ⟨_, rfl⟩ | ⟨_, rfl⟩
  · exact hattach h hop
  all_goals cases hop

theorem valid_of_reachable (hs : s.Reachable) : s.Valid := by
  induction hs with
  | new connection w => exact fun _ hh => nomatch hh
  | step hs op hop ih => exact valid_step (fun h heq => (hop h heq).elim) ih
  | attachNew hs columns rows ih => exact .some rfl (.ofSize _ columns rows)
  | attachAgain hs ht hh hcwd ihs iht => exact .some rfl (hcwd ▸ iht _ hh)
  | edit hs hh i hf ih => exact .some rfl ((ih _ hh).modifyEditor i hf)

/-- In a reachable session no two editors of the host show the same file, whichever way it is spelt.
There is an active editor exactly if there are editors, and it is one of them. A file is found
exactly if some editor shows it, and it is found in the only one that does. -/
theorem editors_of_reachable (hs : s.Reachable) {h : Host} (hh : s.client.host = some h) :
    let cwd := s.world.cwd
    (∀ (i j : Nat) (d e : Editor), h.editors[i]? = some d → h.editors[j]? = some e →
      Path.sameFile cwd d.file e.file → i = j) ∧
    (h.active = none ↔ h.editors = []) ∧
    (∀ i, h.active = some i → i < h.editors.length) ∧
    ∀ file, ((h.editor? cwd file).isSome = true ↔
        ∃ e ∈ h.editors, Path.sameFile cwd e.file file) ∧
      ∀ e, h.editor? cwd file = some e → ∃ i : Nat, h.editors[i]? = some e ∧
        Path.sameFile cwd e.file file ∧
        ∀ (j : Nat) (d : Editor), h.editors[j]? = some d → Path.sameFile cwd d.file file →
          j = i := by
  intro cwd
  have hv : h.Valid cwd := valid_of_reachable hs h hh
  refine ⟨fun i j d e hd he => hv.place_unique hd he, hv.active_eq_none_iff, hv.active_lt,
    fun file => ⟨Host.isSome_editor?_iff, fun e he => ?_⟩⟩
  obtain ⟨i, hi, hs⟩ := hv.editor?_eq_some_iff.mp he
  exact ⟨i, hi, hs, fun j d hd hs' =>
    hv.place_unique hd hi (Path.sameFile_trans hs' (Path.sameFile_symm hs))⟩

/-- Two files under odd names, one of them opened twice. -/
theorem editors_of_reachable_spellings :
    let w : World := { cwd := .ofString "/src", disk := ⟨[]⟩ }
    let ops : List (Op Unit) :=
      [.openEditor (.ofString "./a//b") "x", .openEditor (.ofString "") "",
        .openEditor (.ofString "//src/a/./b/") "y", .setCaret (some (.ofString "a/b")) {}]
    let s : Session Unit := (Session.run ⟨{}, w⟩ [.attachHost (.ofSize 80 24)]).run ops
    ∃ h, s.Reachable ∧ s.client.host = some h ∧ h.editors.length = 2 ∧
      let cwd := s.world.cwd
      (∀ (i j : Nat) (d e : Editor), h.editors[i]? = some d → h.editors[j]? = some e →
        Path.sameFile cwd d.file e.file → i = j) ∧
      (h.active = none ↔ h.editors = []) ∧
      (∀ i, h.active = some i → i < h.editors.length) ∧
      ∀ file, ((h.editor? cwd file).isSome = true ↔
          ∃ e ∈ h.editors, Path.sameFile cwd e.file file) ∧
        ∀ e, h.editor? cwd file = some e → ∃ i : Nat, h.editors[i]? = some e ∧
          Path.sameFile cwd e.file file ∧
          ∀ (j : Nat) (d : Editor), h.editors[j]? = some d → Path.sameFile cwd d.file file →
            j = i := by
  intro w ops s
  have hnew : Reachable (Session.run ⟨{}, w⟩ [.attachHost (.ofSize 80 24)] : Session Unit) :=
    (Reachable.new {} w).attachNew 80 24
  have hs : s.Reachable := hnew.run (by simp [ops])
  exact ⟨_, hs, rfl, by decide, editors_of_reachable hs rfl⟩

/-- In a reachable session a document is shown exactly if there is a host and the request names a
file that is text. If not, nothing changes. If so, the editor of the file gets the focus and the
selection, and is opened only if there is none. -/
theorem showDocument_of_reachable (hs : s.Reachable) (p : SparseShowRequest) :
    let shown := (s.client.showDocument s.world p).value
    (shown.2 = true ↔ (∃ h, s.client.host = some h) ∧
      ∃ file range text, p.Names s.world file range text) ∧
    (shown.2 = false → shown.1 = s.client) ∧
    (shown.2 = true → ∃ h file range text h' i e, s.client.host = some h ∧
      p.Names s.world file range text ∧ shown.1 = { s.client with host := some h' } ∧
      Host.ShownAt s.world.cwd file text range h h' i e) := by
  intro shown
  cases hh : s.client.host with
  | none =>
    have hv : shown = (s.client, false) := Client.value_showDocument_of_none hh s.world p
    rw [hv]
    refine ⟨⟨nofun, ?_⟩, fun _ => rfl, nofun⟩
    rintro ⟨⟨h, hc⟩, -⟩
    cases hc
  | some h =>
    have hv := valid_of_reachable hs h hh
    have hshown : shown = _ := Client.value_showDocument_of_some hh s.world p
    by_cases hp : ∃ file range text, p.Names s.world file range text
    · obtain ⟨file, range, text, hp⟩ := hp
      rw [hv.value_showDocument hp] at hshown
      have hreveal : ∃ i e, Host.ShownAt s.world.cwd file text range h
          (h.reveal s.world.cwd file text range) i e := hv.shownAt_reveal text range
      obtain ⟨i, e, hat⟩ := hreveal
      rw [hshown]
      exact ⟨iff_of_true rfl ⟨⟨h, rfl⟩, file, range, text, hp⟩, nofun,
        fun _ => ⟨h, file, range, text, _, i, e, rfl, hp, rfl, hat⟩⟩
    · have hn : ∀ file range text, ¬p.Names s.world file range text :=
        fun file range text h => hp ⟨file, range, text, h⟩
      rw [Host.value_showDocument_of_not_names hn] at hshown
      have hclient : { s.client with host := some h } = s.client := by rw [← hh]
      rw [hshown, hclient]
      exact ⟨iff_of_false nofun fun hex => hp hex.2, fun _ => rfl, nofun⟩

/-- A file on the disk is shown beside one that is open already. -/
theorem showDocument_of_reachable_file :
    let w : World := { cwd := .ofString "/", disk := ⟨[([[0x61]], .file [0x78])]⟩ }
    let s : Session Unit := Session.run ⟨{}, w⟩
      [.attachHost (.ofSize 80 24), .openEditor (.ofString "/b") "unsaved"]
    let p : SparseShowRequest :=
      { uri := some { scheme := "file", authority := none, path := .rooted ["a"] }
        selection := some { start := { character := 0 }, stop := { character := 1 } } }
    let shown := (s.client.showDocument s.world p).value
    s.Reachable ∧ shown.2 = true ∧ ∃ h file range text h' i e, s.client.host = some h ∧
      p.Names s.world file range text ∧ shown.1 = { s.client with host := some h' } ∧
      Host.ShownAt s.world.cwd file text range h h' i e := by
  intro w s p shown
  have hs : s.Reachable := ((Reachable.new {} w).attachNew 80 24).step _ nofun
  have hp : p.Names s.world (.ofString "/a") _ "x" := ⟨⟨_, rfl, by decide⟩, rfl, by decide⟩
  obtain ⟨hiff, -, hshown⟩ := showDocument_of_reachable hs p
  have htrue : shown.2 = true := hiff.mpr ⟨⟨_, rfl⟩, _, _, _, hp⟩
  exact ⟨hs, htrue, hshown htrue⟩

end Session

end EditorSession
