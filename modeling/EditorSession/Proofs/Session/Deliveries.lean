import EditorSession.Proofs.Diagnostics.History
import EditorSession.Proofs.Hosts.Deliveries
import EditorSession.Proofs.Session.Reachable
import EditorSession.Proofs.Session.Traffic

/-! The diagnostics and the highlights of the editors of one host.

An editor is placed in a host when it is opened, by hand or to show a document (`Session.Places`).
From then on it has the diagnostics and the highlights that were handed out last for its file, until
another editor is placed for that file. One operation places an editor or leaves those that are
there with what it hands out (`Session.yields_step`), so that every editor is traced to the
operation that placed it and to what came since (`Session.traced_run`). -/

namespace EditorSession

variable {Server : Type}

namespace Op

/-- Whether an operation gives the client another host, or takes it away. -/
def swapsHost : Op Server → Bool
  | attachHost _ | detachHost => true
  | _ => false

/-- The highlights that an operation hands out, and the file that their URI names. -/
def highlighting? (op : Op Server) : Option (Path × Highlights) :=
  match op.direct? with
  | some (highlight highlights) => highlights.uri.filePath?.map fun file => (file, highlights)
  | _ => none

theorem highlighting?_of_direct {op op' : Op Server} (h : op.direct? = some op') :
    op.highlighting? = op'.highlighting? := by
  simp only [highlighting?, h, direct?_of_direct h]

theorem effect?_of_direct {op op' : Op Server} (h : op.direct? = some op') (w : World) :
    op.effect? w = op'.effect? w := by
  rw [effect?, publication?_of_direct h]
  rfl

theorem swapsHost_of_direct {op op' : Op Server} (h : op.direct? = some op')
    (hop : op.swapsHost = false) : op'.swapsHost = false := by
  rcases direct?_eq_some h with rfl | ⟨_, rfl⟩ | ⟨_, rfl⟩ | ⟨_, rfl⟩ | ⟨_, rfl⟩
  · exact hop
  all_goals rfl

end Op

namespace Session

/-- The diagnostics that the operations of a run hand out, with their files, the oldest first. A
publication counts if it does in the world as it is when it comes. -/
def published (s : Session Server) : List (Op Server) → History
  | [] => []
  | op :: ops => (op.effect? s.world).toList ++ (s.step op).session.published ops

/-- The operation places an editor of the file in the host: it is opened in place of any other, or
because a file that can be read is to be shown and no editor shows it. -/
inductive Places (s : Session Server) : Op Server → Path → Prop
  | openEditor {h : Host} (hh : s.client.host = some h) (file : Path) (text : String) :
    Places s (.openEditor file text) file
  | openAndSelect {h : Host} {file : Path} {text : String} (hh : s.client.host = some h)
    (hclosed : ¬h.Shows s.world.cwd file)
    (hbytes : s.world.readBytes file = .ok (Utf8.ofString text)) (range : Range) :
    Places s (.openAndSelect file range) file
  | showDocument {h : Host} {p : SparseShowRequest} {file : Path} {range : Range} {text : String}
    (hh : s.client.host = some h)
    (hclosed : ¬h.Shows s.world.cwd file)
    (hp : p.Names s.world file range text) : Places s (.showDocument p) file
  | dispatch {m : Message} {op : Op Server} {file : Path} (hm : m.op? = some op)
    (hp : Places s op file) : Places s (.dispatch m) file

/-- The editor was placed by `op`, which came after `before`, and none of the operations since
placed another for its file. It has the diagnostics and the highlights that those handed out last
for its file, and none if there were none. -/
structure Traced (start : Session Server) (before : List (Op Server)) (op : Op Server)
    (later : List (Op Server)) (e : Editor) : Prop where
  placed : (start.run before).Places op e.file
  last : ∀ between next rest other, later = between ++ next :: rest →
    (start.run (before ++ op :: between)).Places next other →
    ¬Path.sameFile start.world.cwd other e.file
  diagnostics : e.diagnostics = (Path.latest? start.world.cwd
    ((start.run (before ++ [op])).published later) e.file).getD []
  highlights : e.highlights =
    Path.latest? start.world.cwd (later.filterMap Op.highlighting?) e.file

/-- What an operation leaves as an editor: one that it placed, or one that was in the host `h` and
has received what the operation hands out. -/
inductive Leaves (s : Session Server) (h : Host) (op : Op Server) (e' : Editor) : Prop
  | placed (hp : s.Places op e'.file) (hd : e'.diagnostics = []) (hl : e'.highlights = none)
  | kept {e : Editor} (he : e ∈ h.editors)
    (hr : e.Received s.world.cwd (op.effect? s.world).toList op.highlighting?.toList e')
    (hn : ∀ file, s.Places op file → ¬Path.sameFile s.world.cwd file e.file)

/-- The editors of the host `h'` are those that the operation leaves of the host `h`. It shows what
`h` showed, and the file of the editor that the operation placed. -/
structure Yields (s : Session Server) (op : Op Server) (h h' : Host) : Prop where
  leaves : ∀ e' ∈ h'.editors, s.Leaves h op e'
  keeps : ∀ file, h.Shows s.world.cwd file → h'.Shows s.world.cwd file
  places : ∀ file, s.Places op file → h'.Shows s.world.cwd file

variable {s : Session Server} {h : Host} {op : Op Server}

theorem places_of_direct {op' : Op Server} (hd : op.direct? = some op') {file : Path} :
    s.Places op file ↔ s.Places op' file := by
  cases op
  case dispatch m =>
    constructor
    · intro hp
      cases hp with
      | dispatch hm hp =>
        cases hm.symm.trans hd
        exact hp
    · intro hp
      exact .dispatch hd hp
  all_goals
    cases hd
    exact Iff.rfl

theorem places_of_direct_none (hd : op.direct? = none) (file : Path) : ¬s.Places op file := by
  intro hp
  cases hp with
  | dispatch hm hp => cases hm.symm.trans hd
  | _ => cases hd

theorem Yields.of_direct {op' : Op Server} (hd : op.direct? = some op') {h' : Host}
    (hy : s.Yields op' h h') : s.Yields op h h' where
  leaves e' he' := by
    cases hy.leaves e' he' with
    | placed hp hempty hnone => exact .placed ((places_of_direct hd).mpr hp) hempty hnone
    | kept he hr hn =>
      rw [← Op.effect?_of_direct hd, ← Op.highlighting?_of_direct hd] at hr
      exact .kept he hr fun file hp => hn file ((places_of_direct hd).mp hp)
  keeps := hy.keeps
  places file hp := hy.places file ((places_of_direct hd).mp hp)

/-- An operation that places no editor edits those that are there. -/
theorem Yields.of_files (hn : ∀ file, ¬s.Places op file) {h' : Host} (hf : h'.files = h.files)
    (hr : ∀ e' ∈ h'.editors, ∃ e ∈ h.editors,
      e.Received s.world.cwd (op.effect? s.world).toList op.highlighting?.toList e') :
    s.Yields op h h' where
  leaves e' he' := by
    obtain ⟨e, he, hr⟩ := hr e' he'
    exact .kept he hr fun file hp => (hn file hp).elim
  keeps file hs := hs.of_files hf
  places file hp := (hn file hp).elim

/-- The operation hands out nothing and places no editor. -/
structure Quiet (s : Session Server) (op : Op Server) : Prop where
  effect : op.effect? s.world = none
  highlighting : op.highlighting? = none
  places : ∀ file, ¬s.Places op file

theorem Quiet.yields (hq : s.Quiet op) {h' : Host} (hf : h'.files = h.files)
    (hr : ∀ e' ∈ h'.editors, ∃ e ∈ h.editors, e.Received s.world.cwd [] [] e') :
    s.Yields op h h' := by
  refine .of_files hq.places hf fun e' he' => ?_
  rw [hq.effect, hq.highlighting]
  exact hr e' he'

/-! ### One operation -/

/-- The session `s'` has a host, the one that the operation yields. -/
def Delivers (s : Session Server) (h : Host) (op : Op Server) (s' : Session Server) : Prop :=
  ∃ h', s'.client.host = some h' ∧ s.Yields op h h'

/-- Where an operation leaves the editors to themselves, its host may change otherwise. -/
theorem Delivers.of_editors (hq : s.Quiet op) {s' : Session Server} {h' : Host}
    (hh : s'.client.host = some h') (heq : h'.editors = h.editors) : s.Delivers h op s' := by
  refine ⟨h', hh, hq.yields (congrArg (List.map Editor.file) heq) fun e' he' => ?_⟩
  rw [heq] at he'
  exact ⟨e', he', .refl e'⟩

theorem delivers_changeEditor (hq : s.Quiet op) (hh : s.client.host = some h) (file : Option Path)
    {f : Editor → Editor} (hf : ∀ e, Editor.Received s.world.cwd [] [] e (f e)) :
    s.Delivers h op (s.changeEditor file f).session := by
  rcases s.changeEditor_cases file f with heq | ⟨h', i, hh', heq⟩ <;> rw [heq]
  · exact .of_editors hq hh rfl
  · cases hh.symm.trans hh'
    have hfiles := h.files_modifyEditor i fun e => (hf e).file
    exact ⟨_, rfl, hq.yields hfiles fun e' he' => Host.received_modifyEditor hf he'⟩

theorem delivers_openEditor (hs : s.Valid) (hh : s.client.host = some h) (file : Path)
    (text : String) :
    s.Delivers h (.openEditor file text) (s.step (.openEditor file text)).session := by
  refine ⟨_, congrArg (·.client.host) (changeHost_of_some hh _), ?_⟩
  constructor
  case leaves =>
    intro e' he'
    rcases (hs h hh).mem_openEditor he' with rfl | ⟨he', hn⟩
    · exact .placed (.openEditor hh file text) rfl rfl
    · refine .kept he' (.refl e') fun other hp => ?_
      cases hp with
      | openEditor => exact hn
  case keeps => exact fun other hshows => hshows.openEditor _
  case places =>
    intro other hp
    cases hp with
    | openEditor => exact h.shows_openEditor_self _ _

/-- A file that can be read is shown in an editor that is there, or in one that is placed. -/
theorem Yields.reveal {file : Path} {text : String} {r : Range}
    (hp : ¬h.Shows s.world.cwd file → s.Places op file)
    (hn : ∀ other, s.Places op other → other = file ∧ ¬h.Shows s.world.cwd other)
    (heffect : op.effect? s.world = none) (hhigh : op.highlighting? = none) :
    s.Yields op h (h.reveal s.world.cwd file text r) where
  leaves e' he' := by
    rcases Host.mem_reveal he' with ⟨hclosed, rfl⟩ | ⟨e, he, hr⟩
    · rw [Editor.applySelection_frame]
      exact .placed (hp hclosed) rfl rfl
    · refine .kept he ?_ fun other hother hs => (hn other hother).2 ⟨e, he, Path.sameFile_symm hs⟩
      rw [heffect, hhigh]
      exact hr
  keeps other hshows := hshows.reveal file text r
  places other hother := by
    rw [(hn other hother).1]
    exact h.shows_reveal_self _ file text r

theorem delivers_openAndSelect (hh : s.client.host = some h) (file : Path) (range : Range) :
    s.Delivers h (.openAndSelect file range) (s.step (.openAndSelect file range)).session := by
  refine ⟨_, congrArg (·.client.host) (changeHost_of_some hh _), ?_⟩
  have hn : ∀ other, s.Places (.openAndSelect file range) other →
      other = file ∧ ¬h.Shows s.world.cwd other := by
    intro other hp
    cases hp with
    | openAndSelect hh' hclosed =>
      cases hh.symm.trans hh'
      exact ⟨rfl, hclosed⟩
  cases ht : s.world.readText file with
  | ok text =>
    rw [h.value_openAndSelect range ht]
    have hbytes := World.readText_eq_ok_iff.mp ht
    exact .reveal (fun hclosed => .openAndSelect hh hclosed hbytes range) hn rfl rfl
  | error cause =>
    obtain ⟨hr, hf⟩ := Host.value_openAndSelect_of_error range ht
    have hq : s.Quiet (.openAndSelect file range) := by
      refine ⟨rfl, rfl, fun other hp => ?_⟩
      cases hp with
      | openAndSelect _ _ hbytes => cases ht.symm.trans (World.readText_eq_ok_iff.mpr hbytes)
    exact hq.yields hf hr

theorem Idle.quiet (hi : s.Idle op) (hd : op.direct? = some op) (hop : op.isTraffic = true) :
    s.Quiet op := by
  cases op
  case publish p => exact ⟨hi, rfl, nofun⟩
  case highlight highlights =>
    refine ⟨rfl, ?_, nofun⟩
    exact Option.map_eq_none_iff.mpr hi
  case showDocument p =>
    refine ⟨rfl, rfl, fun file hp => ?_⟩
    cases hp with
    | showDocument _ _ hp => exact hi _ _ _ hp
  case dispatch m => exact absurd hd (Op.direct?_ne_dispatch _ m)
  case telemetry => exact ⟨rfl, rfl, nofun⟩
  case showSignature => exact ⟨rfl, rfl, nofun⟩
  case hideSignature => exact ⟨rfl, rfl, nofun⟩
  case showLocations => exact ⟨rfl, rfl, nofun⟩
  case showLinks => exact ⟨rfl, rfl, nofun⟩
  all_goals cases hop

/-- What comes from a server is handed out for a file, or it places an editor if the file that is to
be shown has none. -/
theorem Touches.yields {h' : Host} (ht : s.Touches h op h') (hv : h.Valid s.world.cwd)
    (hh : s.client.host = some h) (hd : op.direct? = some op) (hop : op.isTraffic = true) :
    s.Yields op h h' := by
  cases ht with
  | @publish p d store heffect =>
    have hd : (Op.publish p : Op Server).effect? s.world = some d := heffect
    have hn : ∀ file, ¬s.Places (.publish p) file := nofun
    refine .of_files hn (h.files_editFile _ _ fun _ => rfl) fun e' he' => ?_
    obtain ⟨e, he, rfl⟩ := hv.mem_editFile he'
    rw [hd]
    exact ⟨e, he, e.received_diagnostics d⟩
  | @highlight highlights file hfile =>
    have hhigh : (Op.highlight highlights : Op Server).highlighting? = some (file, highlights) := by
      simp only [Op.highlighting?, Op.direct?, hfile, Option.map_some]
    have hn : ∀ file, ¬s.Places (.highlight highlights) file := nofun
    refine .of_files hn (h.files_editFile _ _ fun _ => rfl) fun e' he' => ?_
    obtain ⟨e, he, rfl⟩ := hv.mem_editFile he'
    rw [hhigh]
    exact ⟨e, he, e.received_highlights (file, highlights)⟩
  | showDocument hp =>
    refine .reveal (fun hclosed => .showDocument hh hclosed hp) (fun other hother => ?_) rfl rfl
    cases hother with
    | showDocument hh' hclosed hp' =>
      cases hh.symm.trans hh'
      exact ⟨hp'.file_unique hp, hclosed⟩
  | idle hi heditors =>
    refine (hi.quiet hd hop).yields (congrArg (List.map Editor.file) heditors) fun e' he' => ?_
    exact ⟨e', heditors ▸ he', .refl e'⟩

theorem delivers_step_of_direct (hs : s.Valid) (hh : s.client.host = some h)
    (hd : op.direct? = some op) (hop : op.swapsHost = false) :
    s.Delivers h op (s.step op).session := by
  by_cases htraffic : op.isTraffic = true
  · obtain ⟨h', hh', ht⟩ := touches_step_of_direct (hs h hh) hh hd htraffic
    exact ⟨h', hh', ht.yields (hs h hh) hh hd htraffic⟩
  cases op
  case attachHost => cases hop
  case detachHost => cases hop
  case openEditor file text => exact delivers_openEditor hs hh file text
  case openAndSelect file range => exact delivers_openAndSelect hh file range
  case setCaret file position =>
    have hq : s.Quiet (.setCaret file position) := ⟨rfl, rfl, nofun⟩
    exact delivers_changeEditor hq hh file fun e => e.received_setCaret position
  case selectRegion file range =>
    have hq : s.Quiet (.selectRegion file range) := ⟨rfl, rfl, nofun⟩
    exact delivers_changeEditor hq hh file fun e => e.received_selectRegion range
  all_goals first
    | exact absurd rfl htraffic
    | refine .of_editors ⟨rfl, rfl, ?_⟩ hh rfl
      exact nofun

/-- An operation that leaves the host attached leaves in it editors that it placed, and editors that
were there, with what it hands out for their files. -/
theorem yields_step (hs : s.Valid) (hh : s.client.host = some h) (hop : op.swapsHost = false) :
    ∃ h', (s.step op).session.client.host = some h' ∧ s.Yields op h h' := by
  refine step_of_direct (P := s.Delivers h op) (fun hd => ?_) fun op' hd => ?_
  · have hq : s.Quiet op := ⟨?_, ?_, places_of_direct_none hd⟩
    · exact .of_editors hq hh rfl
    · rw [Op.effect?, Op.publication?_of_direct_none hd]
      rfl
    · rw [Op.highlighting?, hd]
  · have hop' := Op.swapsHost_of_direct hd hop
    obtain ⟨h', hh', hy⟩ := delivers_step_of_direct hs hh (Op.direct?_of_direct hd) hop'
    exact ⟨h', hh', hy.of_direct hd⟩

/-! ### Runs -/

theorem valid_run (hs : s.Valid) {ops : List (Op Server)}
    (hl : ∀ op ∈ ops, op.swapsHost = false) : (s.run ops).Valid := by
  induction ops generalizing s with
  | nil => exact hs
  | cons op ops ih =>
    have hattach : ∀ h, op = .attachHost h → h.Valid s.world.cwd := by
      rintro h rfl
      cases hl _ List.mem_cons_self
    exact ih (valid_step hattach hs) fun op' h => hl op' (List.mem_cons_of_mem _ h)

theorem published_append (s : Session Server) (ops later : List (Op Server)) :
    s.published (ops ++ later) = s.published ops ++ (s.run ops).published later := by
  induction ops generalizing s with
  | nil => rfl
  | cons op ops ih =>
    rw [List.cons_append, published, published, ih, run_cons, List.append_assoc]

/-- An editor that is placed has been handed nothing yet. -/
theorem Traced.of_placed {start : Session Server} {before : List (Op Server)} {e : Editor}
    (hp : (start.run before).Places op e.file) (hd : e.diagnostics = [])
    (hl : e.highlights = none) : start.Traced before op [] e where
  placed := hp
  last between next rest other heq := by simp at heq
  diagnostics := hd
  highlights := hl

theorem Traced.mem_published {start : Session Server} {before later : List (Op Server)} {e : Editor}
    (ht : start.Traced before op later e) (hne : e.diagnostics ≠ []) :
    ∃ file, Path.sameFile start.world.cwd file e.file ∧
      (file, e.diagnostics) ∈ (start.run (before ++ [op])).published later := by
  have hd := ht.diagnostics
  cases hlatest : Path.latest? start.world.cwd
      ((start.run (before ++ [op])).published later) e.file with
  | none =>
    rw [hlatest] at hd
    exact (hne hd).elim
  | some ds =>
    rw [hlatest, Option.getD_some] at hd
    obtain ⟨file, hmem, hsame⟩ := Path.mem_of_latest? hlatest
    exact ⟨file, hsame, hd ▸ hmem⟩

theorem Traced.mem_highlighting {start : Session Server} {before later : List (Op Server)}
    {e : Editor} (ht : start.Traced before op later e) {highlights : Highlights}
    (hh : e.highlights = some highlights) :
    ∃ file, Path.sameFile start.world.cwd file e.file ∧
      (file, highlights) ∈ later.filterMap Op.highlighting? := by
  obtain ⟨file, hmem, hsame⟩ := Path.mem_of_latest? (ht.highlights.symm.trans hh)
  exact ⟨file, hsame, hmem⟩

/-- What one more operation hands out comes last. -/
theorem Traced.concat {start : Session Server} {before later : List (Op Server)} {next : Op Server}
    {e e' : Editor} (ht : start.Traced before op later e)
    (hr : e.Received start.world.cwd
      (next.effect? (start.run (before ++ op :: later)).world).toList next.highlighting?.toList e')
    (hn : ∀ file, (start.run (before ++ op :: later)).Places next file →
      ¬Path.sameFile start.world.cwd file e.file) :
    start.Traced before op (later ++ [next]) e' where
  placed := by
    rw [hr.file]
    exact ht.placed
  last between next' rest other heq hp := by
    rw [hr.file]
    rcases eq_or_eq_concat heq with ⟨rfl, rfl, -⟩ | ⟨rest, -, rfl⟩
    · exact hn other hp
    · exact ht.last between next' rest other rfl hp
  diagnostics := by
    have hrun : (start.run (before ++ [op])).run later = start.run (before ++ op :: later) := by
      rw [← run_append, List.append_assoc, List.singleton_append]
    rw [hr.diagnostics, hr.file, ht.diagnostics, published_append, hrun, Path.latest?_append,
      Option.getD_or, published, published, List.append_nil]
  highlights := by
    have hlast : [next].filterMap Op.highlighting? = next.highlighting?.toList := by
      cases hnext : next.highlighting? <;> simp [hnext]
    rw [hr.highlights, hr.file, ht.highlights, List.filterMap_append, Path.latest?_append, hlast]

/-- Every editor of a host that had none at the beginning of a run is traced to an operation, and
every operation that placed an editor left one of its file. -/
theorem traced_run {start : Session Server} (hs : start.Valid) (hh : start.client.host = some h)
    (hempty : h.editors = []) {ops : List (Op Server)} (hl : ∀ op ∈ ops, op.swapsHost = false) :
    ∃ h', (start.run ops).client.host = some h' ∧
      (∀ e ∈ h'.editors, ∃ before op later, ops = before ++ op :: later ∧
        start.Traced before op later e) ∧
      ∀ before op later file, ops = before ++ op :: later → (start.run before).Places op file →
        h'.Shows start.world.cwd file := by
  induction ops using List.reverseRecOn with
  | nil =>
    refine ⟨h, hh, fun e he => ?_, fun before op later file heq => by simp at heq⟩
    rw [hempty] at he
    cases he
  | append_singleton ops next ih =>
    have hops : ∀ op ∈ ops, op.swapsHost = false := fun op h => hl op (List.mem_append_left _ h)
    have hnext : next.swapsHost = false := hl next (List.mem_append_right _ List.mem_cons_self)
    obtain ⟨h₁, hh₁, htraced, hshown⟩ := ih hops
    obtain ⟨h₂, hh₂, hyields⟩ := yields_step (valid_run hs hops) hh₁ hnext
    have hcwd : (start.run ops).world.cwd = start.world.cwd := start.cwd_run ops
    rw [run_append, run_cons, run_nil]
    refine ⟨h₂, hh₂, fun e' he' => ?_, fun before op later file heq hp => ?_⟩
    · cases hyields.leaves e' he' with
      | placed hp hd hl => exact ⟨ops, next, [], rfl, .of_placed hp hd hl⟩
      | kept he hr hn =>
        obtain ⟨before, op, later, rfl, ht⟩ := htraced _ he
        rw [hcwd] at hr hn
        exact ⟨before, op, later ++ [next], List.append_assoc .., ht.concat hr hn⟩
    · rw [← hcwd]
      rcases eq_or_eq_concat heq with ⟨rfl, rfl, rfl⟩ | ⟨later, rfl, rfl⟩
      · exact hyields.places file hp
      · refine hyields.keeps file ?_
        rw [hcwd]
        exact hshown before op later file rfl hp

/-- The editors of one host, after any run that keeps it. Each was placed by an operation of the
run, and has the diagnostics and the highlights that came last for its file since. What came for
another file is in none of them. And for every file of which an editor was placed there is one. -/
theorem deliveries_run (c : Client Server) (w : World) (columns rows : UInt16)
    (ops : List (Op Server)) (hl : ∀ op ∈ ops, op.swapsHost = false) :
    let start : Session Server := ⟨c.attachHost (.ofSize columns rows), w⟩
    ∃ h, (start.run ops).client.host = some h ∧
      (∀ e ∈ h.editors, ∃ before op later, ops = before ++ op :: later ∧
        start.Traced before op later e ∧
        (e.diagnostics ≠ [] → ∃ file, Path.sameFile w.cwd file e.file ∧
          (file, e.diagnostics) ∈ (start.run (before ++ [op])).published later) ∧
        ∀ highlights, e.highlights = some highlights → ∃ file, Path.sameFile w.cwd file e.file ∧
          (file, highlights) ∈ later.filterMap Op.highlighting?) ∧
      ∀ before op later file, ops = before ++ op :: later → (start.run before).Places op file →
        ∃ e ∈ h.editors, Path.sameFile w.cwd e.file file := by
  intro start
  have hs : start.Valid := .some rfl (.ofSize w.cwd columns rows)
  obtain ⟨h, hh, htraced, hshown⟩ := traced_run hs rfl rfl hl
  refine ⟨h, hh, fun e he => ?_, hshown⟩
  obtain ⟨before, op, later, heq, ht⟩ := htraced e he
  exact ⟨before, op, later, heq, ht, ht.mem_published, fun _ => ht.mem_highlighting⟩

/-- A file that is opened again between two publications, and whose name is spelt in two ways. -/
theorem deliveries_run_reopened :
    let a : Url := { scheme := "file", authority := none, path := .rooted ["a"] }
    let unused : Diagnostic := { range := {}, message := "unused" }
    let ops : List (Op Unit) :=
      [.openEditor (.ofString "/a") "x", .publish { uri := some a, diagnostics := some [unused] },
        .openEditor (.ofString "a") "y", .highlight { uri := a, tokens := [] }, .endSession,
        .publish { uri := some a, diagnostics := some [unused, unused] }]
    let w : World := { cwd := .ofString "/", disk := ⟨[([[0x61]], .file [])]⟩ }
    let start : Session Unit := ⟨Client.attachHost {} (.ofSize 80 24), w⟩
    (∀ op ∈ ops, op.swapsHost = false) ∧ ∃ h, (start.run ops).client.host = some h ∧
      (∀ e ∈ h.editors, ∃ before op later, ops = before ++ op :: later ∧
        start.Traced before op later e ∧
        (e.diagnostics ≠ [] → ∃ file, Path.sameFile w.cwd file e.file ∧
          (file, e.diagnostics) ∈ (start.run (before ++ [op])).published later) ∧
        ∀ highlights, e.highlights = some highlights → ∃ file, Path.sameFile w.cwd file e.file ∧
          (file, highlights) ∈ later.filterMap Op.highlighting?) ∧
      ∀ before op later file, ops = before ++ op :: later → (start.run before).Places op file →
        ∃ e ∈ h.editors, Path.sameFile w.cwd e.file file := by
  intro a unused ops w start
  have hl : ∀ op ∈ ops, op.swapsHost = false := by simp [ops, Op.swapsHost]
  -- else the run of these operations is evaluated to match the statement
  clear_value ops
  exact ⟨hl, deliveries_run {} w 80 24 ops hl⟩

end Session

end EditorSession
