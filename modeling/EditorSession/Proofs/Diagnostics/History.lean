import EditorSession.Proofs.Files.Spelling
import EditorSession.Proofs.Session.Effects

/-! The diagnostics of a session as the record of what was published.

`DiagnosticStore.ofHistory` is a store after lists were put in place of one another. It has the
files of the history in their first spelling, in the order in which they came, and for each file the
list that came last. `Op.history` is the record of the publications that count, of a run, since the
last end of the session, and `Session.diagnostics_run` says that the store is always the one of this
record. -/

namespace EditorSession

/-- Lists of diagnostics as they were put in place for files, the oldest first. -/
abbrev History := List (Path × List Diagnostic)

namespace History

/-- The first spelling of every file, in the order of the first list for it. -/
def files (history : History) : List Path := Path.firstSpellings (history.map Prod.fst)

/-- The last list that was put in place for a file. -/
def latest? (history : History) (file : Path) : Option (List Diagnostic) :=
  ((history.filter fun e => e.1.Same file).getLast?).map Prod.snd

theorem distinct_files (history : History) : Path.Distinct history.files :=
  Path.distinct_firstSpellings _

theorem exists_mem_files {history : History} {file : Path} :
    (∃ p ∈ history.files, p.Same file) ↔ ∃ e ∈ history, e.1.Same file := by
  rw [files, Path.exists_mem_firstSpellings]
  simp only [List.mem_map]
  constructor
  · rintro ⟨_, ⟨e, he, rfl⟩, hs⟩
    exact ⟨e, he, hs⟩
  · rintro ⟨e, he, hs⟩
    exact ⟨e.1, ⟨e, he, rfl⟩, hs⟩

theorem mem_of_latest? {history : History} {file : Path} {diagnostics : List Diagnostic}
    (h : history.latest? file = some diagnostics) : ∃ e ∈ history, e.2 = diagnostics := by
  obtain ⟨e, he, rfl⟩ := Option.map_eq_some_iff.mp h
  exact ⟨e, (List.mem_filter.mp (List.mem_of_getLast? he)).1, rfl⟩

theorem isSome_latest? {history : History} {file : Path} :
    (history.latest? file).isSome ↔ ∃ e ∈ history, e.1.Same file := by
  simp [latest?]

theorem latest?_congr (history : History) {file other : Path} (h : file.Same other) :
    history.latest? file = history.latest? other := by
  simp only [latest?, h.congr_right]

end History

namespace DiagnosticStore

/-- Of two lists for a file the later one stays. -/
theorem replace_replace (s : DiagnosticStore) (file : Path) (diagnostics later : List Diagnostic) :
    (s.replace file diagnostics).replace file later = s.replace file later := by
  unfold replace FileMap.insert
  rw [FileMap.alter_alter]

/-- The store after lists were put in place for files, one after the other. -/
def ofHistory (history : History) : DiagnosticStore :=
  history.foldl (fun s e => s.replace e.1 e.2) {}

theorem ofHistory_concat (history : History) (e : Path × List Diagnostic) :
    ofHistory (history ++ [e]) = (ofHistory history).replace e.1 e.2 :=
  List.foldl_concat ..

theorem files_ofHistory (history : History) : (ofHistory history).files =
    history.foldl (fun (m : FileMap (List Diagnostic)) e => m.alter e.1 fun _ => e.2) {} := by
  induction history using List.reverseRecOn with
  | nil => rfl
  | append_singleton history e ih =>
    rw [ofHistory_concat, List.foldl_concat, ← ih]
    rfl

theorem keys_ofHistory (history : History) : (ofHistory history).files.keys = history.files := by
  rw [files_ofHistory]
  exact FileMap.keys_foldl_alter Prod.fst (fun e _ => e.2) history

theorem distinct_ofHistory (history : History) : (ofHistory history).files.Distinct := by
  rw [files_ofHistory]
  exact FileMap.distinct_foldl_alter Prod.fst (fun e _ => e.2) history

theorem get?_ofHistory (history : History) (file : Path) :
    (ofHistory history).get? file = history.latest? file := by
  rw [get?, files_ofHistory, FileMap.find?_foldl_alter Prod.fst (fun e _ => e.2),
    History.latest?]
  induction history.filter (fun e => e.1.Same file) using List.reverseRecOn with
  | nil => rfl
  | append_singleton own e _ => rw [List.foldl_concat, List.getLast?_concat, Option.map_some]

/-- The groups of a history: one for each of its files, unless its last list is empty. -/
theorem groups_ofHistory (history : History) :
    (ofHistory history).groups = history.files.filterMap fun file =>
      ((history.latest? file).filter fun diagnostics => !diagnostics.isEmpty).map fun diagnostics =>
        ⟨FileKind.ofPath file, file, diagnostics⟩ := by
  have hread : ∀ file, (ofHistory history).files.find? file = history.latest? file :=
    get?_ofHistory history
  rw [groups, (distinct_ofHistory history).entries_eq, keys_ofHistory, List.filter_filterMap,
    List.map_filterMap]
  refine List.filterMap_congr fun file _ => ?_
  rw [hread, Option.filter_map, Option.map_map]
  rfl

/-- In a history in which no list is empty there is one for each of the files. -/
theorem groups_ofHistory_of_ne_nil {history : History} (h : ∀ e ∈ history, e.2 ≠ []) :
    (ofHistory history).groups = history.files.filterMap fun file =>
      (history.latest? file).map fun diagnostics => ⟨FileKind.ofPath file, file, diagnostics⟩ := by
  rw [groups_ofHistory]
  refine List.filterMap_congr fun file _ => ?_
  cases hlatest : history.latest? file with
  | none => rfl
  | some diagnostics =>
    obtain ⟨e, he, rfl⟩ := History.mem_of_latest? hlatest
    rw [Option.filter_some_pos (by simpa using h e he)]

theorem map_file_groups_ofHistory {history : History} (h : ∀ e ∈ history, e.2 ≠ []) :
    (ofHistory history).groups.map (·.file) = history.files := by
  have hsome : ∀ file ∈ history.files, (history.latest? file).isSome := fun file hf =>
    History.isSome_latest?.mpr (History.exists_mem_files.mp ⟨file, hf, Path.Same.refl file⟩)
  rw [groups_ofHistory_of_ne_nil h, List.map_filterMap]
  refine (List.filterMap_congr fun file hf => ?_).trans List.filterMap_some
  obtain ⟨diagnostics, hd⟩ := Option.isSome_iff_exists.mp (hsome file hf)
  rw [hd]
  rfl

/-- The groups of one file, under whatever spelling: one with its last list, if it has one. -/
theorem filter_groups_ofHistory {history : History} (h : ∀ e ∈ history, e.2 ≠ []) (file : Path) :
    ((ofHistory history).groups.filter fun g => g.file.Same file).map (·.diagnostics) =
      (history.latest? file).toList := by
  have hgroups : (ofHistory history).groups.filter (fun g => g.file.Same file) =
      (history.files.filter fun p => p.Same file).filterMap fun file =>
        (history.latest? file).map fun diagnostics =>
          ⟨FileKind.ofPath file, file, diagnostics⟩ := by
    rw [groups_ofHistory_of_ne_nil h, List.filter_filterMap, List.filterMap_filter]
    refine List.filterMap_congr fun p _ => ?_
    cases history.latest? p <;> simp [Option.filter]
  rw [hgroups]
  cases hlatest : history.latest? file with
  | none =>
    have hnone : history.files.filter (fun p => p.Same file) = [] := by
      refine List.filter_eq_nil_iff.mpr fun p hp hs => ?_
      have hsome := History.isSome_latest?.mpr
        (History.exists_mem_files.mp ⟨p, hp, of_decide_eq_true hs⟩)
      rw [hlatest] at hsome
      cases hsome
    rw [hnone]
    rfl
  | some diagnostics =>
    obtain ⟨p, hp, hs⟩ := History.exists_mem_files.mpr
      (History.isSome_latest?.mp (Option.isSome_of_eq_some hlatest))
    rw [history.distinct_files.filter_same hp hs, List.filterMap_cons,
      history.latest?_congr hs, hlatest]
    rfl

end DiagnosticStore

/-! ### The record of a run -/

variable {Server : Type}

namespace Op

/-- What an operation puts into the store: the file and the list of a publication that counts. -/
def effect? (w : World) (op : Op Server) : Option (Path × List Diagnostic) :=
  op.publication?.bind (·.effect? w)

/-- The record after an operation. -/
def record (w : World) (history : History) : Op Server → History
  | endSession => []
  | op => history ++ (op.effect? w).toList

/-- The record after operations that begin in a world, every one with the disk as it then is. -/
def history (w : World) (before : History) : List (Op Server) → History
  | [] => before
  | op :: ops => history (op.world w) (op.record w before) ops

theorem ne_nil_of_mem_record {w : World} {before : History} {op : Op Server}
    (h : ∀ e ∈ before, e.2 ≠ []) : ∀ e ∈ op.record w before, e.2 ≠ [] := by
  intro e he
  cases op
  case endSession => cases he
  all_goals
    rcases List.mem_append.mp he with he | he
    · exact h e he
    · obtain ⟨p, _, heffect⟩ := Option.bind_eq_some_iff.mp (Option.mem_toList.mp he)
      exact Client.ne_nil_of_effect? heffect

theorem ne_nil_of_mem_history {w : World} {before : History} {ops : List (Op Server)}
    (h : ∀ e ∈ before, e.2 ≠ []) : ∀ e ∈ history w before ops, e.2 ≠ [] := by
  induction ops generalizing w before with
  | nil => exact h
  | cons op ops ih => exact ih (ne_nil_of_mem_record h)

end Op

namespace Session

theorem diagnostics_showLocations (c : Client Server) (w : World)
    (locations : List SparseLocation) :
    (c.showLocations w locations).value.diagnostics = c.diagnostics := by
  cases hc : c.host with
  | none => rw [Client.value_showLocations_of_none hc]
  | some h => rw [Client.value_showLocations_of_some hc]

/-- What an operation leaves in the store, if it is no message and does not end the session. -/
theorem diagnostics_step_of_direct (s : Session Server) {op : Op Server}
    (hop : op.direct? = some op) (hend : op ≠ .endSession) :
    (s.step op).session.client.diagnostics =
      match op.effect? s.world with
      | none => s.client.diagnostics
      | some e => s.client.diagnostics.replace e.1 e.2 := by
  have host (f : Host → Logged Host) :
      (s.changeHost f).session.client.diagnostics = s.client.diagnostics := by
    rcases s.changeHost_cases f with he | ⟨h, -, he⟩ <;> rw [he]
    rfl
  have editor (file : Option Path) (f : Editor → Editor) :
      (s.changeEditor file f).session.client.diagnostics = s.client.diagnostics := by
    rcases s.changeEditor_cases file f with he | ⟨h, i, -, he⟩ <;> rw [he]
    rfl
  cases op
  case endSession => exact absurd rfl hend
  case dispatch m => exact absurd hop (Op.direct?_ne_dispatch _ m)
  case publish p =>
    change (s.client.publish s.world p).value.diagnostics = match p.effect? s.world with
      | none => s.client.diagnostics
      | some e => s.client.diagnostics.replace e.1 e.2
    cases he : p.effect? s.world with
    | none => rw [Client.value_publish_of_none _ he]
    | some e => rw [Client.value_publish_of_some _ he]
  case openEditor => exact host _
  case openAndSelect => exact host _
  case setCaret => exact editor _ _
  case selectRegion => exact editor _ _
  case highlight highlights =>
    change (s.client.highlight s.world.cwd highlights).value.diagnostics = s.client.diagnostics
    rw [Client.value_highlight]
    split <;> rfl
  case showSignature help file =>
    change (s.client.showSignature s.world.cwd help file).value.diagnostics = s.client.diagnostics
    rcases s.client.value_showSignature_cases s.world.cwd help file with
      h | ⟨_, _, _, _, _, _, _, _, _, _, h⟩
    · rw [h]
      rfl
    · rw [h]
  case showLocations locations => exact diagnostics_showLocations s.client s.world locations
  case showLinks links =>
    change (s.client.showLinks s.world links).value.diagnostics = s.client.diagnostics
    rcases s.client.value_showLinks_cases s.world links with he | ⟨locations, he⟩ <;> rw [he]
    exact diagnostics_showLocations s.client s.world locations
  case showDocument p =>
    change (s.client.showDocument s.world p).value.1.diagnostics = s.client.diagnostics
    cases hc : s.client.host with
    | none => rw [Client.value_showDocument_of_none hc]
    | some h => rw [Client.value_showDocument_of_some hc]
  all_goals rfl

/-- A list of diagnostics that counts replaces the one of its file, the end of the session drops all
of them, and nothing else changes the store. -/
theorem diagnostics_step (s : Session Server) (op : Op Server) :
    (s.step op).session.client.diagnostics =
      match op with
      | .endSession => {}
      | op =>
        match op.effect? s.world with
        | none => s.client.diagnostics
        | some e => s.client.diagnostics.replace e.1 e.2 := by
  cases op
  case endSession => rfl
  case dispatch m =>
    refine step_of_direct
      (P := fun after => after.client.diagnostics = match (Op.dispatch m).effect? s.world with
        | none => s.client.diagnostics
        | some e => s.client.diagnostics.replace e.1 e.2)
      (fun hm => ?_) fun op hm => ?_
    · simp only [Op.effect?, Op.publication?_of_direct_none hm, Option.bind_none]
    · simp only [Op.effect?, Op.publication?_of_direct hm]
      refine diagnostics_step_of_direct s (Op.direct?_of_direct hm) ?_
      rintro rfl
      rcases Message.op?_cases hm with ⟨_, h⟩ | ⟨_, h⟩ | ⟨_, h⟩ | ⟨_, h⟩ <;> cases h
  all_goals exact diagnostics_step_of_direct s rfl nofun

theorem ofHistory_record (s : Session Server) (op : Op Server) {history : History}
    (h : s.client.diagnostics = .ofHistory history) :
    (s.step op).session.client.diagnostics = .ofHistory (op.record s.world history) := by
  rw [diagnostics_step]
  cases op
  case endSession => rfl
  all_goals
    simp only [Op.record]
    split
    · next he => simpa only [he, Option.toList_none, List.append_nil] using h
    · next e he =>
      rw [he, Option.toList_some, DiagnosticStore.ofHistory_concat, h]

theorem diagnostics_run (s : Session Server) (ops : List (Op Server)) {history : History}
    (h : s.client.diagnostics = .ofHistory history) :
    (s.run ops).client.diagnostics = .ofHistory (Op.history s.world history ops) := by
  induction ops generalizing s history with
  | nil => exact h
  | cons op ops ih =>
    have hrest := ih (s.step op).session (s.ofHistory_record op h)
    rwa [world_step] at hrest

/-- The groups of a client that was new at the beginning of a run: the files of the publications
that counted since the last end of the session, in the first spelling and in the order of the first
of them, one group for a file, and in it the list that was published last. Operations other than
these publications and the end of the session leave the store as it is. -/
theorem groups_run (connection : Connection Server) (w : World) (ops : List (Op Server)) :
    let s := (⟨{ connection }, w⟩ : Session Server).run ops
    let published := Op.history w [] ops
    s.client.diagnostics.groups.map (·.file) = published.files ∧
    (∀ file, (s.client.diagnostics.groups.filter fun g => g.file.Same file).map (·.diagnostics) =
      (published.latest? file).toList) ∧
    (∀ g ∈ s.client.diagnostics.groups, g.kind = FileKind.ofPath g.file) ∧
    ∀ op, (s.step op).session.client.diagnostics =
      match op with
      | .endSession => {}
      | op =>
        match op.effect? s.world with
        | none => s.client.diagnostics
        | some e => s.client.diagnostics.replace e.1 e.2 := by
  intro s published
  have hstore : s.client.diagnostics = .ofHistory published :=
    diagnostics_run ⟨{ connection }, w⟩ ops rfl
  have hne : ∀ e ∈ published, e.2 ≠ [] := Op.ne_nil_of_mem_history nofun
  refine ⟨?_, fun file => ?_, fun g hg => ?_, s.diagnostics_step⟩
  · rw [hstore, DiagnosticStore.map_file_groups_ofHistory hne]
  · rw [hstore, DiagnosticStore.filter_groups_ofHistory hne]
  · obtain ⟨e, _, rfl⟩ := List.mem_map.mp hg
    rfl

end Session

end EditorSession
