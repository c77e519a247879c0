import EditorSession.Proofs.Search.Groups
import EditorSession.Proofs.Session.Effects

/-! Which URLs name files.

A URL is refused exactly if it is no place on this machine (`World.resolve_eq_notAFileUri_iff`):
its path is not made of segments, or it has a host other than `localhost`. The scheme makes no
difference, so a file is found by a URL of any scheme (`World.resolve_withScheme`). A publication,
a search and a request to show a document do nothing with a URL that is refused. -/

namespace EditorSession

namespace Url

/-- The URL is a place on this machine: its path is made of segments, and no host is given but
`localhost`. -/
structure IsPlace (u : Url) : Prop where
  segments : ∃ first rest, u.path = .rooted (first :: rest)
  host : ∀ host, u.authority.bind (·.host) = some host → host = .domain "localhost"

/-- The URL with another scheme. -/
def withScheme (u : Url) (scheme : String) : Url := { u with scheme }

theorem isPlace_withScheme_iff {u : Url} {scheme : String} :
    (u.withScheme scheme).IsPlace ↔ u.IsPlace :=
  ⟨fun h => ⟨h.segments, h.host⟩, fun h => ⟨h.segments, h.host⟩⟩

theorem isLocal_iff {u : Url} : u.isLocal = true ↔
    ∀ host, u.authority.bind (·.host) = some host → host = .domain "localhost" := by
  unfold isLocal
  cases u.authority.bind (·.host) <;> simp

theorem isSome_filePath?_iff {u : Url} : u.filePath?.isSome = true ↔ u.IsPlace := by
  unfold filePath?
  constructor
  · intro h
    split at h
    · next first rest hpath =>
      split at h
      · next hlocal => exact ⟨⟨first, rest, hpath⟩, isLocal_iff.mp hlocal⟩
      · cases h
    · cases h
  · rintro ⟨⟨first, rest, hpath⟩, hhost⟩
    rw [hpath, isLocal_iff.mpr hhost]
    rfl

theorem filePath?_eq_none_iff {u : Url} : u.filePath? = none ↔ ¬u.IsPlace := by
  rw [← isSome_filePath?_iff, Bool.not_eq_true, Option.isSome_eq_false_iff,
    Option.isNone_iff_eq_none]

end Url

namespace World

variable {w : World} {u : Url} {file : Path}

theorem pathExists_of_isFile (h : w.isFile file = true) : w.pathExists file = true := by
  unfold isFile at h
  unfold pathExists
  split at h
  · next hnode =>
    rw [hnode]
    rfl
  · cases h

/-- A URL leads to the regular file at the path that it names. -/
theorem resolve_eq_ok_iff :
    w.resolve u = .ok file ↔ u.filePath? = some file ∧ w.isFile file = true := by
  unfold resolve
  cases u.filePath? with
  | none => simp
  | some named =>
    by_cases hfile : w.isFile named = true
    · have hexists := pathExists_of_isFile hfile
      simp only [hexists, hfile, Bool.not_true, Bool.false_eq_true, if_false, Except.ok.injEq,
        Option.some.injEq]
      constructor
      · rintro rfl
        exact ⟨rfl, hfile⟩
      · exact And.left
    · have hrefused : ¬(some named = some file ∧ w.isFile file = true) := by
        rintro ⟨heq, hf⟩
        cases heq
        exact hfile hf
      simp only [hrefused, iff_false]
      split
      · nofun
      · simp [hfile]

theorem resolve_eq_notAFileUri_iff : w.resolve u = .error (.notAFileUri u) ↔ ¬u.IsPlace := by
  rw [← Url.filePath?_eq_none_iff]
  unfold resolve
  cases u.filePath? with
  | none => simp
  | some named =>
    simp only [reduceCtorEq, iff_false]
    split
    · nofun
    · split <;> nofun

/-- The scheme of a URL has no part in what it names. -/
theorem resolve_withScheme (hu : u.IsPlace) (scheme : String) :
    w.resolve (u.withScheme scheme) = w.resolve u := by
  obtain ⟨named, hnamed⟩ := Option.isSome_iff_exists.mp (Url.isSome_filePath?_iff.mpr hu)
  have hnamed' : (u.withScheme scheme).filePath? = some named := hnamed
  unfold resolve
  rw [hnamed, hnamed']

theorem toOption_resolve_withScheme (w : World) (u : Url) (scheme : String) :
    (w.resolve (u.withScheme scheme)).toOption = (w.resolve u).toOption := by
  by_cases hu : u.IsPlace
  · rw [resolve_withScheme hu]
  · have hu' : ¬(u.withScheme scheme).IsPlace := mt Url.isPlace_withScheme_iff.mp hu
    rw [resolve_eq_notAFileUri_iff.mpr hu, resolve_eq_notAFileUri_iff.mpr hu']
    rfl

theorem resolve_ne_ok (hu : ¬u.IsPlace) (file : Path) : w.resolve u ≠ .ok file := by
  rw [resolve_eq_notAFileUri_iff.mpr hu]
  nofun

end World

variable {Server : Type} {u : Url}

theorem SparsePublication.effect?_of_not_isPlace (w : World) {p : SparsePublication}
    (hp : p.uri = some u) (hu : ¬u.IsPlace) : p.effect? w = none := by
  unfold effect?
  split
  · next uri _ huri =>
    cases hp.symm.trans huri
    rw [World.resolve_eq_notAFileUri_iff.mpr hu]
    rfl
  · rfl

theorem Client.diagnostics_publish_of_not_isPlace (c : Client Server) (w : World)
    {p : SparsePublication} (hp : p.uri = some u) (hu : ¬u.IsPlace) :
    (c.publish w p).value.diagnostics = c.diagnostics := by
  rw [value_publish_of_none c (SparsePublication.effect?_of_not_isPlace w hp hu)]

theorem Search.resolve_ne_found_of_not_isPlace (w : World) (openText : OpenText)
    {l : SparseLocation} (hl : l.uri = some u) (hu : ¬u.IsPlace) (r : SearchResult) :
    Search.resolve w openText l ≠ .ok (.found r) := by
  intro hfound
  obtain ⟨file, range, ⟨⟨uri, huri, hfile⟩, -⟩, -⟩ := resolve_eq_found_iff.mp hfound
  cases hl.symm.trans huri
  exact World.resolve_ne_ok hu file hfile

theorem Client.value_showDocument_of_not_isPlace (c : Client Server) (w : World)
    {p : SparseShowRequest} (hp : p.uri = some u) (hu : ¬u.IsPlace) :
    (c.showDocument w p).value = (c, false) := by
  apply value_showDocument_of_not_names
  rintro file range text ⟨⟨uri, huri, hfile⟩, -⟩
  cases hp.symm.trans huri
  exact World.resolve_ne_ok hu file hfile

/-! ### Schemes -/

variable (w : World) (u : Url) (scheme : String)

theorem SparsePublication.effect?_withScheme (p : SparsePublication) :
    { p with uri := some (u.withScheme scheme) }.effect? w =
      { p with uri := some u }.effect? w := by
  obtain ⟨uri, list, version⟩ := p
  rcases list with _ | _ | ⟨d, ds⟩
  · rfl
  · rfl
  · exact congrArg (Option.map _) (w.toOption_resolve_withScheme u scheme)

theorem Client.value_publish_withScheme (c : Client Server) (p : SparsePublication) :
    (c.publish w { p with uri := some (u.withScheme scheme) }).value =
      (c.publish w { p with uri := some u }).value := by
  have heffect := p.effect?_withScheme w u scheme
  cases he : { p with uri := some u }.effect? w with
  | none =>
    rw [c.value_publish_of_none he, c.value_publish_of_none (heffect.trans he)]
    rfl
  | some e => rw [c.value_publish_of_some he, c.value_publish_of_some (heffect.trans he)]

theorem Search.result?_withScheme (openText : OpenText) (range : Option Range) :
    result? w openText { uri := some (u.withScheme scheme), range } =
      result? w openText { uri := some u, range } := by
  by_cases hu : u.IsPlace
  · cases range with
    | none => rfl
    | some range =>
      simp only [result?, resolve, SparseLocation.complete?, World.resolve_withScheme hu]
  · have hnone {v : Url} (hv : ¬v.IsPlace) :
        result? w openText { uri := some v, range } = none := by
      rw [Option.eq_none_iff_forall_ne_some]
      intro r hr
      exact resolve_ne_found_of_not_isPlace w openText rfl hv r (result?_eq_some_iff.mp hr)
    rw [hnone hu, hnone (mt Url.isPlace_withScheme_iff.mp hu)]

theorem Host.showTarget?_withScheme (p : SparseShowRequest) :
    showTarget? w { p with uri := some (u.withScheme scheme) } =
      showTarget? w { p with uri := some u } := by
  unfold showTarget?
  cases p.selection with
  | none => rfl
  | some selection =>
    by_cases hu : u.IsPlace
    · simp only [World.resolve_withScheme hu]
    · have hu' : ¬(u.withScheme scheme).IsPlace := mt Url.isPlace_withScheme_iff.mp hu
      simp only [World.resolve_eq_notAFileUri_iff.mpr hu, World.resolve_eq_notAFileUri_iff.mpr hu']

theorem Client.value_showDocument_withScheme (c : Client Server) (p : SparseShowRequest) :
    (c.showDocument w { p with uri := some (u.withScheme scheme) }).value =
      (c.showDocument w { p with uri := some u }).value := by
  have htarget := Host.showTarget?_withScheme w u scheme p
  cases hc : c.host with
  | none => rw [value_showDocument_of_none hc, value_showDocument_of_none hc]
  | some h =>
    rw [value_showDocument_of_some hc, value_showDocument_of_some hc, Host.showDocument,
      Host.showDocument, htarget]

/-- A URL is refused on every disk exactly if it is no place on this machine, and then nothing that
names it comes to a file: no publication, no place in a list and no request to show a document. A
change of its scheme changes none of this, so that a URL of any scheme names the file that the URL
with the scheme `file` names. -/
theorem World.refuses_iff_not_isPlace (w : World) (u : Url) :
    (w.resolve u = .error (.notAFileUri u) ↔ ¬u.IsPlace) ∧
    (¬u.IsPlace →
      (∀ (c : Client Server) (p : SparsePublication), p.uri = some u →
        (c.publish w p).value.diagnostics = c.diagnostics) ∧
      (∀ openText (l : SparseLocation) r, l.uri = some u →
        Search.resolve w openText l ≠ .ok (.found r)) ∧
      ∀ (c : Client Server) (p : SparseShowRequest), p.uri = some u →
        (c.showDocument w p).value = (c, false)) ∧
    ∀ scheme : String,
      (∀ file, w.resolve (u.withScheme scheme) = .ok file ↔ w.resolve u = .ok file) ∧
      (∀ (c : Client Server) (p : SparsePublication),
        (c.publish w { p with uri := some (u.withScheme scheme) }).value =
          (c.publish w { p with uri := some u }).value) ∧
      (∀ openText range, Search.result? w openText { uri := some (u.withScheme scheme), range } =
        Search.result? w openText { uri := some u, range }) ∧
      ∀ (c : Client Server) (p : SparseShowRequest),
        (c.showDocument w { p with uri := some (u.withScheme scheme) }).value =
          (c.showDocument w { p with uri := some u }).value := by
  refine ⟨resolve_eq_notAFileUri_iff, fun hu => ⟨?_, ?_, ?_⟩, fun scheme => ⟨?_, ?_, ?_, ?_⟩⟩
  · intro c p hp
    exact c.diagnostics_publish_of_not_isPlace w hp hu
  · intro openText l r hl
    exact Search.resolve_ne_found_of_not_isPlace w openText hl hu r
  · intro c p hp
    exact c.value_showDocument_of_not_isPlace w hp hu
  · intro file
    rw [resolve_eq_ok_iff, resolve_eq_ok_iff]
    rfl
  · exact Client.value_publish_withScheme w u scheme
  · exact Search.result?_withScheme w u scheme
  · exact Client.value_showDocument_withScheme w u scheme

/-- A URL whose scheme is not `file` names a file: its diagnostics are kept, its text is found, and
it is shown. -/
theorem World.resolve_eq_ok_of_other_scheme :
    let w : World := { cwd := .ofString "/", disk := ⟨[([[0x61]], .file [0x78])]⟩ }
    let c : Client Unit := { host := some (.ofSize 80 24) }
    let range : Range := { stop := { character := 1 } }
    let unused : Diagnostic := { range, message := "unused" }
    ¬(∀ u file, w.resolve u = .ok file → u.scheme = "file") ∧
    ∃ u, Url.parse? "git:///a" = some u ∧ w.resolve u = .ok (.ofString "/a") ∧
      (c.publish w { uri := some u, diagnostics := some [unused] }).value.diagnostics.get?
        (.ofString "/a") = some [unused] ∧
      Search.result? w (fun _ => none) { uri := some u, range := some range } =
        some { file := .ofString "/a", range, line := "x", matched := "x" } ∧
      (c.showDocument w { uri := some u, selection := some range }).value.2 = true := by
  intro w c range unused
  have hfile : w.resolve { scheme := "git", authority := some {}, path := .rooted ["a"] } =
      .ok (.ofString "/a") := by decide
  refine ⟨fun h => ?_, _, by decide +kernel, hfile, rfl, by decide, by decide⟩
  exact absurd (h _ _ hfile) (by decide)

end EditorSession
