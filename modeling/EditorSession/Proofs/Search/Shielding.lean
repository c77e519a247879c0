import EditorSession.Client
import EditorSession.Proofs.Files.Trees
import EditorSession.Proofs.Hosts.Editors
import EditorSession.Proofs.Search.Groups

/-! What a search takes from the disk.

Of the disk, a search needs the tree and the bytes of those files that no open editor shows. So a
batch of places has the same results on two disks with one tree, as long as each place whose bytes
differ names its file in a spelling that an editor is found by
(`Client.showLocations_of_sameTree`). Editors are found by the absolute form of a path, in which two
dots stay: a place that goes through them is read from the disk, though the file is open
(`Client.showLocations_ne_of_other_spelling`). -/

namespace EditorSession

namespace Search

variable {w : World} {disk : Disk} {openText : OpenText}

theorem contentOf_congr {file : Path}
    (h : openText file = none → World.readBytes { w with disk } file = w.readBytes file) :
    contentOf { w with disk } openText file = contentOf w openText file := by
  unfold contentOf
  cases ho : openText file with
  | some content => rfl
  | none => rw [World.readText_congr (h ho)]

/-- A place is looked up alike on both disks if its file is open or has the same bytes. -/
theorem resolve_of_sameTree {l : SparseLocation} (htree : w.disk.SameTree disk)
    (h : ∀ file range, l.Names w file range → openText file = none →
      World.readBytes { w with disk } file = w.readBytes file) :
    resolve { w with disk } openText l = resolve w openText l := by
  unfold resolve
  cases hl : l.complete? with
  | none => rfl
  | some location =>
    simp only [World.resolve_of_sameTree htree]
    cases hf : w.resolve location.uri with
    | error reason => rfl
    | ok file =>
      have hnames : l.Names w file location.range := by
        obtain ⟨uri, range⟩ := l
        cases uri <;> cases range <;> cases hl
        exact ⟨⟨_, rfl, hf⟩, rfl⟩
      simp only [contentOf_congr (h file location.range hnames)]

/-- Places that are looked up alike give the same results and the same notices. -/
theorem buildFrom_congr {w' : World} {ls : List SparseLocation}
    (h : ∀ l ∈ ls, resolve w' openText l = resolve w openText l) (results : SearchResults)
    (index : Nat) : buildFrom w' openText results index ls = buildFrom w openText results index ls := by
  induction ls generalizing results index with
  | nil => rfl
  | cons l ls ih =>
    have hrest := ih fun l hl => h l (List.mem_cons_of_mem _ hl)
    simp only [buildFrom, h l List.mem_cons_self, hrest]

end Search

namespace Host

/-- The file at `names` is open: a path that leads there is the same file as the one of an editor. -/
def HasOpen (h : Host) (w : World) (names : List Name) : Prop :=
  ∃ file, w.locate file = .ok names ∧ ∃ e ∈ h.editors, Path.sameFile w.cwd e.file file

theorem openText_ne_none {h : Host} {cwd file : Path} {e : Editor} (he : e ∈ h.editors)
    (hs : Path.sameFile cwd e.file file) : h.openText cwd file ≠ none := by
  intro hn
  have hsome := isSome_editor?_iff.mpr ⟨e, he, hs⟩
  rw [Option.map_eq_none_iff.mp hn] at hsome
  cases hsome

end Host

namespace Client

variable {Server : Type}

/-- Two disks have the same directories and regular files. If each place that names a file with
other bytes names it in a spelling of which an editor is open, then the client, its host and all
notices are the same after a search on either disk. -/
theorem showLocations_of_sameTree {c : Client Server} {h : Host} (hh : c.host = some h) {w : World}
    {disk : Disk} (htree : w.disk.SameTree disk) {locations : List SparseLocation}
    (hopen : ∀ l ∈ locations, ∀ file range, l.Names w file range →
      World.readBytes { w with disk } file ≠ w.readBytes file →
        ∃ e ∈ h.editors, Path.sameFile w.cwd e.file file) :
    c.showLocations { w with disk } locations = c.showLocations w locations := by
  have hplace : ∀ l ∈ locations, Search.resolve { w with disk } (h.openText w.cwd) l =
      Search.resolve w (h.openText w.cwd) l := by
    intro l hl
    refine Search.resolve_of_sameTree htree fun file range hn hnone => ?_
    by_contra hbytes
    obtain ⟨e, he, hs⟩ := hopen l hl file range hn hbytes
    exact Host.openText_ne_none he hs hnone
  -- The flag that is set first has no part in the text of editors.
  have hbuild : Search.build { w with disk }
      (({ h with searchEmpty := locations.isEmpty } : Host).openText w.cwd) locations =
      Search.build w (({ h with searchEmpty := locations.isEmpty } : Host).openText w.cwd)
        locations :=
    Search.buildFrom_congr hplace {} 0
  unfold showLocations
  simp only [hh, hbuild]

/-- A file that is open with changes, while its bytes on one of the disks are no text. -/
theorem showLocations_of_sameTree_unsaved :
    let w : World := { cwd := .ofString "/", disk := ⟨[([[0x61]], .file [0x78])]⟩ }
    let disk := w.disk.put [[0x61]] [0xFF]
    let h := (Host.ofSize 80 24).openEditor w.cwd (.ofText (.ofString "a") "yz")
    let c : Client Unit := { host := some h }
    let range : Range := { stop := { character := 1 } }
    let l : SparseLocation :=
      { uri := some { scheme := "file", authority := some {}, path := .rooted ["a"] }
        range := some range }
    w.disk.SameTree disk ∧
      (∀ file range, l.Names w file range → ∃ e ∈ h.editors, Path.sameFile w.cwd e.file file) ∧
      World.readText { w with disk } (.ofString "/a") = .error .notText ∧
      (c.showLocations w [l]).value.searchResults.find? (.ofString "/a") =
        some [{ file := .ofString "/a", range, line := "yz", matched := "y" }] ∧
      c.showLocations { w with disk } [l] = c.showLocations w [l] := by
  intro w disk h c range l
  have hold : w.disk.find? [[0x61]] = some (.file [0x78]) := by decide
  have htree : w.disk.SameTree disk := Disk.sameTree_put hold [0xFF]
  have hopen : ∀ file range, l.Names w file range →
      ∃ e ∈ h.editors, Path.sameFile w.cwd e.file file := by
    rintro file _ ⟨⟨_, huri, hfile⟩, -⟩
    cases huri
    have ha : w.resolve { scheme := "file", authority := some {}, path := .rooted ["a"] } =
        .ok (.ofString "/a") := by decide
    cases ha.symm.trans hfile
    exact ⟨_, List.mem_singleton_self _, by decide⟩
  refine ⟨htree, hopen, by decide, by decide +kernel, ?_⟩
  refine showLocations_of_sameTree rfl htree fun l' hl file range hn _ => ?_
  cases List.mem_singleton.mp hl
  exact hopen file range hn

/-- A place that goes to an open file through two dots is read from the disk, so its result is not
that of the editor, and it changes with the bytes on the disk. -/
theorem showLocations_ne_of_other_spelling :
    let w : World :=
      { cwd := .ofString "/", disk := ⟨[([[0x78]], .dir), ([[0x61]], .file [0x61])]⟩ }
    let disk := w.disk.put [[0x61]] [0x62]
    let h := (Host.ofSize 80 24).openEditor w.cwd (.ofText (.ofString "/a") "c")
    let c : Client Unit := { host := some h }
    let uri : Url := { scheme := "file", authority := some {}, path := .rooted ["x%2F..%2Fa"] }
    let l : SparseLocation := { uri := some uri, range := some { stop := { character := 1 } } }
    let matches? (w : World) : Option (List String) :=
      ((c.showLocations w [l]).value.searchResults.find? (.ofString "/x/../a")).map
        (List.map SearchResult.matched)
    ¬(∀ (c : Client Unit) (h : Host) (w : World) (disk : Disk) (locations : List SparseLocation),
      c.host = some h → w.disk.SameTree disk →
        (∀ names, disk.find? names ≠ w.disk.find? names → h.HasOpen w names) →
          c.showLocations { w with disk } locations = c.showLocations w locations) ∧
    Url.parse? "file:///x%2F..%2Fa" = some uri ∧
    (∀ names, disk.find? names ≠ w.disk.find? names → h.HasOpen w names) ∧
    matches? w = some ["a"] ∧ matches? { w with disk } = some ["b"] := by
  intro w disk h c uri l matches?
  have hold : w.disk.find? [[0x61]] = some (.file [0x61]) := by decide
  have htree : w.disk.SameTree disk := Disk.sameTree_put hold [0x62]
  have hopen : ∀ names, disk.find? names ≠ w.disk.find? names → h.HasOpen w names := by
    intro names hne
    by_cases hn : names = [[0x61]]
    · rw [hn]
      exact ⟨.ofString "/a", by decide, _, List.mem_singleton_self _, by decide⟩
    · exact (hne (Disk.find?_put_of_ne [0x62] hn)).elim
  have ha : matches? w = some ["a"] := by decide +kernel
  have hb : matches? { w with disk } = some ["b"] := by decide +kernel
  refine ⟨fun hall => ?_, by decide +kernel, hopen, ha, hb⟩
  have hsame : matches? { w with disk } = matches? w := by
    simp only [matches?, hall c h w disk [l] rfl htree hopen]
  rw [ha, hb] at hsame
  exact absurd hsame (by decide)

end Client
end EditorSession
