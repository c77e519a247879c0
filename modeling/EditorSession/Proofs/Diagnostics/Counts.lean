import EditorSession.Proofs.Files.Spelling
import EditorSession.Proofs.Session.Effects

/-! The counts of a group by severity.

A diagnostic counts as one severity, so counts of different severities add up
(`DiagnosticGroup.count_add_countP`). A severity may be any number, and four of them have names. The
four counts miss what has another severity, and add up to the whole group exactly if there is
nothing such in it (`Client.counts_of_published`). -/

namespace EditorSession

namespace Severity

/-- The severities that have a name. -/
def named : List Severity := [error, warning, information, hint]

end Severity

/-- The severity that a diagnostic counts as. -/
def Diagnostic.countedAs (d : Diagnostic) : Severity := d.severity.getD Severity.error

theorem Diagnostic.countedAs_mem_named_iff {d : Diagnostic} :
    d.countedAs ∈ Severity.named ↔ ∀ s, d.severity = some s → s ∈ Severity.named := by
  unfold countedAs
  cases d.severity with
  | none => simp [Severity.named]
  | some s => simp

namespace DiagnosticGroup

/-- A severity adds its count to those of others. -/
theorem count_add_countP (g : DiagnosticGroup) {s : Severity} {ss : List Severity} (hs : s ∉ ss) :
    g.count s + g.diagnostics.countP (fun d => d.countedAs ∈ ss) =
      g.diagnostics.countP fun d => d.countedAs ∈ s :: ss := by
  have hcount : g.count s = g.diagnostics.countP fun d => d.countedAs == s :=
    List.countP_eq_length_filter.symm
  rw [hcount]
  induction g.diagnostics with
  | nil => rfl
  | cons d ds ih =>
    rw [List.countP_cons, List.countP_cons, List.countP_cons, ← ih]
    by_cases h : d.countedAs = s
    · -- `s` is not in the rest of the list, so the diagnostic is counted once
      have hrest : d.countedAs ∉ ss := h ▸ hs
      rw [if_pos (by simp [h]), if_neg (by simpa using hrest), if_pos (by simp [h])]
      omega
    · have hcons : d.countedAs ∈ s :: ss ↔ d.countedAs ∈ ss := by simp [h]
      simp only [hcons, h, beq_iff_eq, if_false]
      omega

/-- The counts of the named severities add up to what counts as one of them. -/
theorem count_named (g : DiagnosticGroup) :
    g.count .error + g.count .warning + g.count .information + g.count .hint =
      g.diagnostics.countP fun d => d.countedAs ∈ Severity.named := by
  have hnone : g.diagnostics.countP (fun d => d.countedAs ∈ ([] : List Severity)) = 0 := by simp
  rw [Severity.named, ← count_add_countP g (by decide), ← count_add_countP g (by decide),
    ← count_add_countP g (by decide), ← count_add_countP g (by decide), hnone]
  omega

end DiagnosticGroup

namespace DiagnosticStore

variable {s : DiagnosticStore} {file : Path} {diagnostics : List Diagnostic}

theorem exists_mem_groups_replace (s : DiagnosticStore) (file : Path) (h : diagnostics ≠ []) :
    ∃ g ∈ (s.replace file diagnostics).groups, g.file.Same file := by
  have hget := Client.get?_replace_self s file diagnostics
  obtain ⟨e, he, rfl⟩ := Option.map_eq_some_iff.mp hget
  refine ⟨_, List.mem_map_of_mem (List.mem_filter.mpr ⟨List.mem_of_find?_eq_some he, ?_⟩), ?_⟩
  · simpa using h
  · simpa using List.find?_some he

theorem diagnostics_of_mem_groups_replace {g : DiagnosticGroup}
    (hg : g ∈ (s.replace file diagnostics).groups) (hs : g.file.Same file) :
    g.diagnostics = diagnostics := by
  obtain ⟨e, he, rfl⟩ := List.mem_map.mp hg
  exact FileMap.value_of_mem_insert (List.mem_filter.mp he).1 hs

end DiagnosticStore

namespace Client

variable {Server : Type}

/-- The group of a list that was published and stored. The counts of the four named severities add
up to the number of its diagnostics that have no severity or a named one, each counted once. They
add up to the number of all its diagnostics exactly if every severity that is given has a name. -/
theorem counts_of_published (c : Client Server) {w : World} {p : SparsePublication} {file : Path}
    {diagnostics : List Diagnostic} (hp : p.effect? w = some (file, diagnostics)) :
    let groups := (c.publish w p).value.diagnostics.groups
    (∃ g ∈ groups, g.file.Same file) ∧ ∀ g ∈ groups, g.file.Same file →
      g.diagnostics = diagnostics ∧
      g.count .error + g.count .warning + g.count .information + g.count .hint =
        (diagnostics.filter fun d => d.severity.getD .error ∈ Severity.named).length ∧
      (g.count .error + g.count .warning + g.count .information + g.count .hint =
          diagnostics.length ↔
        ∀ d ∈ diagnostics, ∀ s, d.severity = some s → s ∈ Severity.named) := by
  intro groups
  have hgroups : groups = (c.diagnostics.replace file diagnostics).groups := by
    simp only [groups, value_publish_of_some c hp]
  rw [hgroups]
  refine ⟨DiagnosticStore.exists_mem_groups_replace _ file (ne_nil_of_effect? hp),
    fun g hg hs => ?_⟩
  obtain rfl := DiagnosticStore.diagnostics_of_mem_groups_replace hg hs
  refine ⟨rfl, g.count_named.trans List.countP_eq_length_filter, ?_⟩
  rw [g.count_named, List.countP_eq_length]
  simp only [decide_eq_true_eq, Diagnostic.countedAs_mem_named_iff]

/-- An error without a severity, a warning and two diagnostics of other severities. -/
theorem counts_of_published_mixed :
    let d (severity : Option Severity) : Diagnostic := { range := {}, severity, message := "" }
    let ds := [d none, d (some .warning), d (some 5), d (some 0)]
    let p : SparsePublication :=
      { uri := some { scheme := "file", authority := none, path := .rooted ["a"] }
        diagnostics := some ds }
    let w : World := { cwd := .ofString "/", disk := ⟨[([[0x61]], .file [])]⟩ }
    let file := Path.ofString "/a"
    p.effect? w = some (file, ds) ∧
    let groups := (({} : Client Unit).publish w p).value.diagnostics.groups
    (∃ g ∈ groups, g.file.Same file) ∧ ∀ g ∈ groups, g.file.Same file →
      g.diagnostics = ds ∧
      g.count .error + g.count .warning + g.count .information + g.count .hint =
        (ds.filter fun d => d.severity.getD .error ∈ Severity.named).length ∧
      (g.count .error + g.count .warning + g.count .information + g.count .hint = ds.length ↔
        ∀ d ∈ ds, ∀ s, d.severity = some s → s ∈ Severity.named) := by
  intro d ds p w file
  have hresolve : (w.resolve { scheme := "file", authority := none, path := .rooted ["a"] }).toOption =
      some file := by
    decide +kernel
  have hp : p.effect? w = some (file, ds) := congrArg (Option.map fun file => (file, ds)) hresolve
  exact ⟨hp, counts_of_published {} hp⟩

/-- A severity without a name is read, published and stored, and none of the counts has it. -/
theorem counts_ne_length_of_unnamed :
    let position : Json := .obj [("line", .int 0), ("character", .int 0)]
    let diagnostic : Json :=
      .obj [("range", .obj [("start", position), ("end", position)]), ("severity", .int 5),
        ("message", .str "unused")]
    let message : Json := .obj [("uri", .str "file:///a"), ("diagnostics", .arr [diagnostic])]
    let w : World := { cwd := .ofString "/", disk := ⟨[([[0x61]], .file [])]⟩ }
    ∃ p g, SparsePublication.decode? message = some p ∧
      (({} : Client Unit).publish w p).value.diagnostics.groups = [g] ∧ g.diagnostics.length = 1 ∧
      ¬g.count .error + g.count .warning + g.count .information + g.count .hint =
        g.diagnostics.length := by
  intro position diagnostic message w
  have hcounts : (SparsePublication.decode? message).map (fun p =>
      (({} : Client Unit).publish w p).value.diagnostics.groups.map fun g =>
        (g.count .error + g.count .warning + g.count .information + g.count .hint,
          g.diagnostics.length)) = some [(0, 1)] := by
    decide +kernel
  obtain ⟨p, hp, hgroups⟩ := Option.map_eq_some_iff.mp hcounts
  obtain ⟨g, hg, hcount⟩ := List.map_eq_singleton_iff.mp hgroups
  obtain ⟨hsum, hlength⟩ := Prod.mk.inj hcount
  refine ⟨p, g, hp, hg, hlength, ?_⟩
  rw [hsum, hlength]
  exact Nat.zero_ne_one

end Client

end EditorSession
