import EditorSession.Proofs.Hosts.Deliveries

/-! What showing documents leaves of the editors that are open.

`Host.Visited` says what becomes of a host in which documents are shown one after another. Editors
stay where they are, with their files and their texts, and new ones come after them; carets and
selections are those of the last visit to each file, and the last visit of all has the focus. What
is done to diagnostics, highlights and lists is no visit (`Host.Visited.of_bare`), and showing a
file that can be read is one (`Host.Valid.visited_reveal`). -/

namespace EditorSession

/-- The caret and the selection of an editor in which the range was selected last. -/
def Range.caret (r : Range) : Position × Option Range :=
  if r.start = r.stop then (r.start, none) else (r.stop, some r)

namespace Editor

def caret (e : Editor) : Position × Option Range := (e.cursor, e.selection)

/-- The editor without what is handed out for its file. -/
def bare (e : Editor) : Editor := { e with diagnostics := [], highlights := none }

theorem caret_applySelection (e : Editor) (r : Range) : (e.applySelection r).caret = r.caret := by
  unfold Range.caret
  split
  · next h => rw [applySelection_of_eq e h, caret]
  · next h => rw [applySelection_of_ne e h, caret]

theorem content_applySelection (e : Editor) (r : Range) :
    (e.applySelection r).content = e.content := by
  rw [applySelection_frame]

end Editor

namespace Host

/-- The host `h'` is `h` after documents were shown: those of `visits`, each with the range that was
selected in it, the oldest first. -/
structure Visited (cwd : Path) (visits : List (Path × Range)) (h h' : Host) : Prop where
  kept : ∀ (i : Nat) (e : Editor), h.editors[i]? = some e → ∃ e', h'.editors[i]? = some e' ∧
    e'.file = e.file ∧ e'.content = e.content ∧
    e'.caret = ((Path.latest? cwd visits e.file).map Range.caret).getD e.caret
  added : ∀ (i : Nat) (e' : Editor), h.editors.length ≤ i → h'.editors[i]? = some e' →
    (Path.latest? cwd visits e'.file).map Range.caret = some e'.caret
  still : visits = [] → h'.active = h.active
  active : ∀ d, visits.getLast? = some d → ∃ (i : Nat) (e' : Editor), h'.active = some i ∧
    h'.editors[i]? = some e' ∧ Path.sameFile cwd d.1 e'.file

variable {cwd : Path} {h h' h'' : Host}

theorem Visited.of_bare (hb : h'.editors.map Editor.bare = h.editors.map Editor.bare)
    (ha : h'.active = h.active) : Visited cwd [] h h' where
  kept i e he := by
    have hi : (h'.editors.map Editor.bare)[i]? = some e.bare := by
      rw [hb, List.getElem?_map, he, Option.map_some]
    rw [List.getElem?_map, Option.map_eq_some_iff] at hi
    obtain ⟨e', he', hbare⟩ := hi
    have hcaret : e'.bare.caret = e.bare.caret := congrArg Editor.caret hbare
    exact ⟨e', he', congrArg (·.file) hbare, congrArg (·.content) hbare, hcaret⟩
  added i e' hi he' := by
    have hlen : h'.editors.length = h.editors.length := by
      simpa using congrArg List.length hb
    obtain ⟨hlt, -⟩ := List.getElem?_eq_some_iff.mp he'
    omega
  still _ := ha
  active := nofun

theorem Visited.refl (cwd : Path) (h : Host) : Visited cwd [] h h := .of_bare rfl rfl

theorem Visited.trans {visits later : List (Path × Range)} (hv : Visited cwd visits h h')
    (hv' : Visited cwd later h' h'') : Visited cwd (visits ++ later) h h'' where
  kept i e he := by
    obtain ⟨e', he', hfile, hcontent, hcaret⟩ := hv.kept i e he
    obtain ⟨e'', he'', hfile', hcontent', hcaret'⟩ := hv'.kept i e' he'
    refine ⟨e'', he'', hfile'.trans hfile, hcontent'.trans hcontent, ?_⟩
    rw [hcaret', hfile, hcaret, Path.latest?_append, Option.map_or, Option.getD_or]
  added i e'' hi he'' := by
    rw [Path.latest?_append, Option.map_or]
    by_cases hi' : i < h'.editors.length
    · have he' := List.getElem?_eq_getElem hi'
      obtain ⟨_, hat, hfile, -, hcaret⟩ := hv'.kept i _ he'
      cases he''.symm.trans hat
      have hadded := hv.added i _ hi he'
      rw [hcaret, hfile, hadded]
      cases (Path.latest? cwd later h'.editors[i].file).map Range.caret <;> rfl
    · rw [hv'.added i e'' (Nat.le_of_not_lt hi') he'', Option.some_or]
  still hnil := by
    obtain ⟨hvisits, hlater⟩ := List.append_eq_nil_iff.mp hnil
    exact (hv'.still hlater).trans (hv.still hvisits)
  active d hd := by
    cases hlater : later.getLast? with
    | some d' =>
      rw [List.getLast?_append, hlater, Option.some_or] at hd
      cases hd
      exact hv'.active d hlater
    | none =>
      rw [List.getLast?_append, hlater, Option.none_or] at hd
      obtain ⟨i, e', ha, he', hs⟩ := hv.active d hd
      obtain ⟨e'', he'', hfile, -⟩ := hv'.kept i e' he'
      have hactive := hv'.still (List.getLast?_eq_none_iff.mp hlater)
      exact ⟨i, e'', hactive.trans ha, he'', hfile ▸ hs⟩

/-- The caret of every editor of the file that was visited is the one of the visit. -/
theorem Visited.caret_eq {file : Path} {r : Range} (hv : Visited cwd [(file, r)] h h') {e : Editor}
    (he : e ∈ h'.editors) (hs : Path.sameFile cwd file e.file) : e.caret = r.caret := by
  obtain ⟨i, hi⟩ := List.mem_iff_getElem?.mp he
  by_cases hlt : i < h.editors.length
  · obtain ⟨_, hat, hfile, -, hcaret⟩ := hv.kept i _ (List.getElem?_eq_getElem hlt)
    cases hi.symm.trans hat
    rw [hcaret, ← hfile, Path.latest?_singleton, if_pos hs]
    rfl
  · have hadded := hv.added i e (Nat.le_of_not_lt hlt) hi
    rw [Path.latest?_singleton, if_pos hs] at hadded
    exact (Option.some.inj hadded).symm

/-- A file that is shown already has its caret moved, in the one editor that shows it. -/
theorem Valid.visited_of_open (hv : h.Valid cwd) {file : Path} (text : String) (r : Range) {i : Nat}
    (hi : h.indexOf? cwd file = some i) :
    Visited cwd [(file, r)] h (h.reveal cwd file text r) := by
  have heditors : (h.reveal cwd file text r).editors =
      h.editors.map fun e => if Path.sameFile cwd file e.file then e.applySelection r else e := by
    rw [reveal_of_open hi]
    exact hv.editors_editFile file _
  have hat (j : Nat) (e : Editor) (he : h.editors[j]? = some e) :
      (h.reveal cwd file text r).editors[j]? =
        some (if Path.sameFile cwd file e.file then e.applySelection r else e) := by
    rw [heditors, List.getElem?_map, he, Option.map_some]
  constructor
  case kept =>
    intro j e he
    refine ⟨_, hat j e he, ?_⟩
    rw [Path.latest?_singleton]
    by_cases hs : Path.sameFile cwd file e.file
    · rw [if_pos hs, if_pos hs]
      exact ⟨e.file_applySelection r, e.content_applySelection r, e.caret_applySelection r⟩
    · rw [if_neg hs, if_neg hs]
      exact ⟨rfl, rfl, rfl⟩
  case added =>
    intro j e' hj he'
    obtain ⟨hlt, -⟩ := List.getElem?_eq_some_iff.mp he'
    rw [heditors, List.length_map] at hlt
    omega
  case still => exact nofun
  case active =>
    intro d hd
    cases hd
    obtain ⟨e, he, hs⟩ := hv.indexOf?_eq_some_iff.mp hi
    refine ⟨i, _, by rw [reveal_of_open hi], hat i e he, ?_⟩
    rw [if_pos (Path.sameFile_symm hs), e.file_applySelection]
    exact Path.sameFile_symm hs

/-- A file that is not shown is opened behind all that are. -/
theorem visited_of_not_open {file : Path} (text : String) (r : Range)
    (hn : h.indexOf? cwd file = none) :
    Visited cwd [(file, r)] h (h.reveal cwd file text r) := by
  have hreveal : h.reveal cwd file text r = _ := reveal_of_not_open hn
  have hfile : ((Editor.ofText file text).applySelection r).file = file :=
    Editor.file_applySelection ..
  have hlast : (h.reveal cwd file text r).editors[h.editors.length]? =
      some ((Editor.ofText file text).applySelection r) := by
    rw [hreveal]
    exact List.getElem?_concat_length
  constructor
  case kept =>
    intro j e he
    obtain ⟨hlt, -⟩ := List.getElem?_eq_some_iff.mp he
    have hs : ¬Path.sameFile cwd file e.file := fun hs =>
      indexOf?_eq_none_iff.mp hn e (List.mem_of_getElem? he) (Path.sameFile_symm hs)
    refine ⟨e, ?_, rfl, rfl, ?_⟩
    · rw [hreveal]
      exact (List.getElem?_append_left hlt).trans he
    · rw [Path.latest?_singleton, if_neg hs]
      rfl
  case added =>
    intro j e' hj he'
    obtain ⟨hlt, -⟩ := List.getElem?_eq_some_iff.mp he'
    rw [hreveal, List.length_append, List.length_singleton] at hlt
    obtain rfl : j = h.editors.length := by omega
    cases hlast.symm.trans he'
    rw [hfile, Path.latest?_singleton, if_pos (Path.sameFile_refl cwd file), Option.map_some,
      Editor.caret_applySelection]
  case still => exact nofun
  case active =>
    intro d hd
    cases hd
    refine ⟨_, _, by rw [hreveal], hlast, ?_⟩
    rw [hfile]
    exact Path.sameFile_refl cwd file

theorem Valid.visited_reveal (hv : h.Valid cwd) (file : Path) (text : String) (r : Range) :
    Visited cwd [(file, r)] h (h.reveal cwd file text r) := by
  cases hi : h.indexOf? cwd file with
  | some i => exact hv.visited_of_open text r hi
  | none => exact visited_of_not_open text r hi

end Host

end EditorSession
