import EditorSession.Proofs.Diagnostics.History
import Mathlib.Data.List.Dedup
import Mathlib.Data.List.DropRight

/-! A store of diagnostics after any changes.

The lists of files are replaced, also by empty ones, and the store is cleared. All that counts is
the history since it was cleared last (`DiagnosticStore.run_eq_ofHistory`). An empty list hides the
group of a file and keeps its place: once the file has a list again, nothing tells that it had been
emptied (`DiagnosticStore.replace_run_replace`). -/

namespace EditorSession

namespace DiagnosticStore

/-- A change of a store. -/
inductive Change where
  | replace (file : Path) (diagnostics : List Diagnostic)
  | clear

namespace Change

def replacement? : Change → Option (Path × List Diagnostic)
  | replace file diagnostics => some (file, diagnostics)
  | clear => none

/-- The replacements after the last time that the store was cleared. -/
def history (changes : List Change) : History :=
  (changes.rtakeWhile fun c => c.replacement?.isSome).filterMap replacement?

theorem history_concat_replace (changes : List Change) (file : Path)
    (diagnostics : List Diagnostic) :
    history (changes ++ [replace file diagnostics]) = history changes ++ [(file, diagnostics)] := by
  rw [history, List.rtakeWhile_concat_pos _ _ _ rfl, List.filterMap_append]
  rfl

theorem history_concat_clear (changes : List Change) : history (changes ++ [clear]) = [] := by
  rw [history, List.rtakeWhile_concat_neg _ _ _ Bool.false_ne_true]
  rfl

end Change

def apply (s : DiagnosticStore) : Change → DiagnosticStore
  | .replace file diagnostics => s.replace file diagnostics
  | .clear => s.clear

def run (s : DiagnosticStore) (changes : List Change) : DiagnosticStore := changes.foldl apply s

theorem run_eq_ofHistory (changes : List Change) :
    run {} changes = ofHistory (Change.history changes) := by
  induction changes using List.reverseRecOn with
  | nil => rfl
  | append_singleton changes c ih =>
    rw [run, List.foldl_concat, ← run, ih]
    cases c with
    | replace file diagnostics => rw [Change.history_concat_replace, ofHistory_concat]; rfl
    | clear => rw [Change.history_concat_clear]; rfl

/-- A store has as many files as there are paths in its history. -/
theorem size_ofHistory (history : History) :
    (ofHistory history).size = (history.map fun e => e.1.components).dedup.length := by
  have hnodup : (history.files.map Path.components).Nodup :=
    List.pairwise_map.mpr history.distinct_files
  have hperm : (history.files.map Path.components).Perm
      (history.map fun e => e.1.components).dedup := by
    refine (List.perm_ext_iff_of_nodup hnodup (List.nodup_dedup _)).mpr fun c => ?_
    rw [List.mem_dedup, List.mem_map, List.mem_map]
    constructor
    · rintro ⟨p, hp, rfl⟩
      exact History.exists_mem_files.mp ⟨p, hp, Path.Same.refl p⟩
    · rintro ⟨e, he, rfl⟩
      exact History.exists_mem_files.mpr ⟨e, he, Path.Same.refl e.1⟩
  rw [size, ← FileMap.length_keys, keys_ofHistory, ← hperm.length_eq, List.length_map]

/-! ### Replacing one file -/

variable {s : DiagnosticStore} {file : Path} {diagnostics later : List Diagnostic}

/-- The groups of other files are as they were, in their places. -/
theorem filter_groups_replace (s : DiagnosticStore) (file : Path) (diagnostics : List Diagnostic) :
    ((s.replace file diagnostics).groups.filter fun g => ¬g.file.Same file) =
      s.groups.filter fun g => ¬g.file.Same file := by
  have hgroups (s : DiagnosticStore) : (s.groups.filter fun g => ¬g.file.Same file) =
      ((s.files.entries.filter fun e => ¬e.1.Same file).filter fun e => !e.2.isEmpty).map
        fun e => ⟨FileKind.ofPath e.1, e.1, e.2⟩ := by
    rw [groups, List.filter_map, List.filter_filter, List.filter_filter]
    simp only [Function.comp_def, Bool.and_comm]
  rw [hgroups, hgroups]
  exact congrArg _ (congrArg _ FileMap.filter_entries_alter)

theorem isSome_get?_iff : (s.get? file).isSome ↔ s.files.contains file = true := by
  simp [get?, FileMap.find?, FileMap.contains]

theorem isSome_get?_replace (h : (s.get? file).isSome) (other : Path)
    (list : List Diagnostic) : ((s.replace other list).get? file).isSome := by
  rw [isSome_get?_iff] at h ⊢
  exact FileMap.contains_alter.mpr (.inl h)

/-- A list that is replaced later leaves nothing behind, if the store had the file before it. -/
theorem replace_run_replace (changes : List Change) (h : (s.get? file).isSome) :
    ((s.replace file diagnostics).run changes).replace file later =
      (s.run changes).replace file later := by
  induction changes generalizing s with
  | nil => exact s.replace_replace file diagnostics later
  | cons c changes ih =>
    cases c with
    | clear => rfl
    | replace other list =>
      by_cases hs : file.Same other
      · have hspelling : s.replace file diagnostics = s.replace other diagnostics :=
          congrArg mk (FileMap.alter_congr (isSome_get?_iff.mp h) hs)
        have hlist : (s.replace file diagnostics).replace other list = s.replace other list := by
          rw [hspelling, replace_replace]
        exact congrArg (fun s => (run s changes).replace file later) hlist
      · have hcomm : (s.replace file diagnostics).replace other list =
            (s.replace other list).replace file diagnostics :=
          congrArg mk (FileMap.alter_comm (isSome_get?_iff.mp h) hs
            (f := fun _ => diagnostics) (g := fun _ => list))
        have hrest := ih (isSome_get?_replace h other list)
        rw [← hcomm] at hrest
        exact hrest

/-- What can be seen of a store after any changes. A file has the list that it was given last since
the store was cleared, under every spelling, and the size is the number of paths since then. The
groups are those of the files with a list that is not empty, in the order and the spelling in which
the files came first. A replacement leaves the groups of other files alone, and a file that was
emptied and has a list again is where it would be had it not been emptied. -/
theorem contents_run (changes : List Change) :
    let s := run {} changes
    let history := Change.history changes
    (∀ file, s.get? file = history.latest? file) ∧
    s.size = (history.map fun e => e.1.components).dedup.length ∧
    (s.groups = history.files.filterMap fun file =>
      ((history.latest? file).filter fun diagnostics => !diagnostics.isEmpty).map
        fun diagnostics => ⟨FileKind.ofPath file, file, diagnostics⟩) ∧
    (∀ file diagnostics, ((s.replace file diagnostics).groups.filter fun g => ¬g.file.Same file) =
      s.groups.filter fun g => ¬g.file.Same file) ∧
    ∀ file diagnostics between, (s.get? file).isSome →
      ((s.replace file []).run between).replace file diagnostics =
        (s.run between).replace file diagnostics := by
  intro s history
  have hs : s = ofHistory history := run_eq_ofHistory changes
  refine ⟨fun file => ?_, ?_, ?_, s.filter_groups_replace,
    fun file diagnostics between h => replace_run_replace between h⟩
  · rw [hs, get?_ofHistory]
  · rw [hs, size_ofHistory]
  · rw [hs, groups_ofHistory]

/-- A file that is emptied and filled again under other spellings, with another file in between. -/
theorem contents_run_refilled :
    let a := Path.ofString "/a"
    let a' := Path.ofString "//a"
    let b := Path.ofString "/b"
    let d : Diagnostic := { range := {}, message := "" }
    let s := run {} [.replace b [d], .clear, .replace a [d], .replace b [d, d]]
    (s.get? a').isSome ∧
      ((s.replace a' []).run [.replace b [d]]).replace a' [d, d] =
        (s.run [.replace b [d]]).replace a' [d, d] := by
  intro a a' b d s
  have h : (s.get? a').isSome := by decide +kernel
  exact ⟨h, (contents_run _).2.2.2.2 _ _ _ h⟩

end DiagnosticStore

end EditorSession
