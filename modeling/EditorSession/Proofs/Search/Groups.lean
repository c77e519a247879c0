import EditorSession.Proofs.Files.Reading
import EditorSession.Proofs.Files.Spelling
import EditorSession.Proofs.Text.Positions
import EditorSession.Search.Build

/-! The groups that a list of places gives.

A place has a result if it has text (`SparseLocation.HasText`), and an error if it names a file but
has none. The groups of a list of places are those of the results, one file at a time
(`Search.value_buildFrom`), and the notices are those of the errors, each with the index of its
place (`Search.notices_buildFrom`). -/

namespace EditorSession

open Search (OpenText)

/-- The place is complete and its URI names a regular file. -/
structure SparseLocation.Names (w : World) (l : SparseLocation) (file : Path) (range : Range) :
    Prop where
  uri : ∃ uri, l.uri = some uri ∧ w.resolve uri = .ok file
  place : l.range = some range

/-- The place names a file, and its range is one of the text of this file: that of an open editor,
else what is on disk. -/
structure SparseLocation.HasText (w : World) (openText : OpenText) (l : SparseLocation)
    (file : Path) (range : Range) (content : Content) : Prop extends l.Names w file range where
  text : openText file = some content ∨
    openText file = none ∧ w.readBytes file = .ok (Utf8.ofString content.text)
  order : range.stop.precedes range.start = false
  start : content.IsPosition range.start
  stop : content.IsPosition range.stop

namespace SearchResults

/-! ### Results by file -/

theorem find?_foldl_push (rs : List SearchResult) (file : Path) :
    (rs.foldl push {}).find? file =
      let own := rs.filter fun r => r.file.Same file
      if own = [] then none else some own := by
  have hfold := FileMap.find?_foldl_alter SearchResult.file
    (fun r list => list.getD [] ++ [r]) file rs {}
  refine hfold.trans ?_
  dsimp only
  induction rs.filter (fun r => r.file.Same file) using List.reverseRecOn with
  | nil => rfl
  | append_singleton own r ih =>
    rw [List.foldl_concat, ih, if_neg (List.concat_ne_nil r own)]
    split
    · next h => rw [h]; rfl
    · rfl

theorem keys_foldl_push (rs : List SearchResult) :
    (rs.foldl push {}).keys = Path.firstSpellings (rs.map (·.file)) :=
  FileMap.keys_foldl_alter SearchResult.file (fun r list => list.getD [] ++ [r]) rs

theorem distinct_foldl_push (rs : List SearchResult) : (rs.foldl push {}).Distinct :=
  FileMap.distinct_foldl_alter SearchResult.file (fun r list => list.getD [] ++ [r]) rs

theorem total_push {m : SearchResults} (h : m.Distinct) (r : SearchResult) :
    (m.push r).total = m.total + 1 := by
  obtain ⟨entries⟩ := m
  unfold push FileMap.alter
  split
  · next hc =>
    simp only [FileMap.contains] at hc
    replace h : (entries.map Prod.fst).Pairwise fun p q => ¬p.Same q := h
    simp only [total]
    induction entries with
    | nil => cases hc
    | cons e es ih =>
      obtain ⟨he, hes⟩ := List.pairwise_cons.mp h
      by_cases hs : e.1.Same r.file
      · -- No other entry is of this file.
        have hrest : (es.map fun e => if e.1.Same r.file then (e.1, e.2 ++ [r]) else e) = es := by
          refine (List.map_congr_left fun d hd => if_neg fun hd' => ?_).trans es.map_id'
          exact he d.1 (List.mem_map_of_mem hd) (hs.trans hd'.symm)
        simp [hs, hrest]
        omega
      · rw [List.any_cons, decide_eq_false hs, Bool.false_or] at hc
        have hrest := ih hc hes
        simp only [List.map_cons, hs, if_false, List.flatMap_cons, List.length_append]
        omega
  · simp [total]

theorem total_foldl_push (rs : List SearchResult) : (rs.foldl push {}).total = rs.length := by
  induction rs using List.reverseRecOn with
  | nil => rfl
  | append_singleton rs r ih =>
    rw [List.foldl_concat, total_push (distinct_foldl_push rs), ih, List.length_append]
    rfl

/-- A file is there because it has a result. -/
theorem ne_nil_of_mem_foldl_push {rs : List SearchResult} {e : Path × List SearchResult}
    (he : e ∈ (rs.foldl push {}).entries) : e.2 ≠ [] := by
  have hfind := (distinct_foldl_push rs).find?_of_mem he
  rw [find?_foldl_push] at hfind
  dsimp only at hfind
  split at hfind
  · cases hfind
  · next hne =>
    rw [← Option.some.inj hfind]
    exact hne

end SearchResults

namespace Search

variable {w : World} {openText : OpenText}

/-! ### What becomes of a place -/

theorem contentOf_eq_ok_iff {file : Path} {content : Content} :
    contentOf w openText file = .ok content ↔ openText file = some content ∨
      openText file = none ∧ w.readBytes file = .ok (Utf8.ofString content.text) := by
  unfold contentOf
  cases openText file with
  | some live => simp
  | none =>
    obtain ⟨text⟩ := content
    simp only [← World.readText_eq_ok_iff]
    cases w.readText file <;> simp

theorem extract_eq_ok_iff {file : Path} {range : Range} {content : Content} {r : SearchResult} :
    extract file range content = .ok r ↔ r.file = file ∧ r.range = range ∧
      content.line range.start.line = .ok r.line ∧
      content.sub range.start range.stop = .ok r.matched := by
  obtain ⟨file', range', line, matched⟩ := r
  unfold extract
  cases content.line range.start.line with
  | error cause => simp
  | ok line' =>
    cases content.sub range.start range.stop with
    | error cause => simp
    | ok matched' => simp [eq_comm]

/-- A range has text exactly if its ends are positions in order. -/
theorem exists_extract_eq_ok_iff {file : Path} {range : Range} {content : Content} :
    (∃ r, extract file range content = .ok r) ↔ range.stop.precedes range.start = false ∧
      content.IsPosition range.start ∧ content.IsPosition range.stop := by
  rw [← Content.exists_sub_eq_ok_iff]
  constructor
  · rintro ⟨r, hr⟩
    exact ⟨r.matched, (extract_eq_ok_iff.mp hr).2.2.2⟩
  · rintro ⟨matched, hm⟩
    obtain ⟨-, ⟨line, a, hl, -⟩, -⟩ := Content.exists_sub_eq_ok_iff.mp ⟨matched, hm⟩
    have hline : content.line range.start.line = .ok (String.ofList line) := by
      rw [Content.line, hl]
      rfl
    exact ⟨⟨file, range, _, matched⟩, extract_eq_ok_iff.mpr ⟨rfl, rfl, hline, hm⟩⟩

/-- The match at a range of a file. -/
def textAt (w : World) (openText : OpenText) (file : Path) (range : Range) :
    Except SearchError SearchResult :=
  contentOf w openText file >>= extract file range

theorem textAt_eq_ok_iff {file : Path} {range : Range} {r : SearchResult} :
    textAt w openText file range = .ok r ↔
      ∃ content, contentOf w openText file = .ok content ∧ extract file range content = .ok r := by
  unfold textAt
  cases contentOf w openText file with
  | error cause =>
    refine ⟨nofun, ?_⟩
    rintro ⟨content, hc, -⟩
    cases hc
  | ok content =>
    refine ⟨fun h => ⟨content, rfl, h⟩, ?_⟩
    rintro ⟨content', hc, he⟩
    cases hc
    exact he

theorem resolve_of_names {l : SparseLocation} {file : Path} {range : Range}
    (h : l.Names w file range) :
    resolve w openText l = (textAt w openText file range).map .found := by
  obtain ⟨⟨uri, hu, hf⟩, hr⟩ := h
  simp only [resolve, SparseLocation.complete?, hu, hr, hf, textAt]
  cases contentOf w openText file with
  | error cause => rfl
  | ok content =>
    simp only [bind, Except.bind]
    cases extract file range content <;> rfl

theorem resolve_of_not_names {l : SparseLocation} (h : ∀ file range, ¬l.Names w file range) :
    ∃ reason, resolve w openText l = .ok (.skipped reason) := by
  unfold resolve
  split
  · exact ⟨_, rfl⟩
  · next location hl =>
    split
    · exact ⟨_, rfl⟩
    · next file hf =>
      obtain ⟨uri, range⟩ := l
      cases uri <;> cases range <;> cases hl
      exact (h file _ ⟨⟨_, rfl, hf⟩, rfl⟩).elim

/-- A place that names no file is passed over. -/
theorem exists_names_of_resolve {l : SparseLocation}
    (h : ∀ reason, resolve w openText l ≠ .ok (.skipped reason)) :
    ∃ file range, l.Names w file range := by
  by_contra hn
  have hskip : ∃ reason, resolve w openText l = .ok (.skipped reason) :=
    resolve_of_not_names fun file range hfile => hn ⟨file, range, hfile⟩
  obtain ⟨reason, hs⟩ := hskip
  exact h reason hs

theorem resolve_eq_found_iff {l : SparseLocation} {r : SearchResult} :
    resolve w openText l = .ok (.found r) ↔
      ∃ file range, l.Names w file range ∧ textAt w openText file range = .ok r := by
  constructor
  · intro h
    obtain ⟨file, range, hn⟩ := exists_names_of_resolve fun reason hs => by
      rw [h] at hs
      cases hs
    rw [resolve_of_names hn] at h
    cases ht : textAt w openText file range <;> rw [ht] at h <;> cases h
    exact ⟨file, range, hn, ht⟩
  · rintro ⟨file, range, hn, ht⟩
    rw [resolve_of_names hn, ht]
    rfl

theorem resolve_eq_error_iff {l : SparseLocation} {e : SearchError} :
    resolve w openText l = .error e ↔
      ∃ file range, l.Names w file range ∧ textAt w openText file range = .error e := by
  constructor
  · intro h
    obtain ⟨file, range, hn⟩ := exists_names_of_resolve fun reason hs => by
      rw [h] at hs
      cases hs
    rw [resolve_of_names hn] at h
    cases ht : textAt w openText file range <;> rw [ht] at h <;> cases h
    exact ⟨file, range, hn, ht⟩
  · rintro ⟨file, range, hn, ht⟩
    rw [resolve_of_names hn, ht]
    rfl

/-- The result of a place is of its file and its range, with the text there. -/
theorem resolve_eq_found_iff_hasText {l : SparseLocation} {r : SearchResult} :
    resolve w openText l = .ok (.found r) ↔ ∃ content,
      l.HasText w openText r.file r.range content ∧
      content.line r.range.start.line = .ok r.line ∧
      content.sub r.range.start r.range.stop = .ok r.matched := by
  rw [resolve_eq_found_iff]
  constructor
  · rintro ⟨file, range, hn, ht⟩
    obtain ⟨content, hc, he⟩ := textAt_eq_ok_iff.mp ht
    obtain ⟨horder, hstart, hstop⟩ := exists_extract_eq_ok_iff.mp ⟨r, he⟩
    obtain ⟨rfl, rfl, hline, hsub⟩ := extract_eq_ok_iff.mp he
    exact ⟨content, ⟨hn, contentOf_eq_ok_iff.mp hc, horder, hstart, hstop⟩, hline, hsub⟩
  · rintro ⟨content, ht, hline, hsub⟩
    have hextract := extract_eq_ok_iff.mpr ⟨rfl, rfl, hline, hsub⟩
    exact ⟨r.file, r.range, ht.toNames,
      textAt_eq_ok_iff.mpr ⟨content, contentOf_eq_ok_iff.mpr ht.text, hextract⟩⟩

/-- A place has a result exactly if it has text. -/
theorem exists_found_iff {l : SparseLocation} :
    (∃ r, resolve w openText l = .ok (.found r)) ↔
      ∃ file range content, l.HasText w openText file range content := by
  constructor
  · rintro ⟨r, hr⟩
    obtain ⟨content, ht, -⟩ := resolve_eq_found_iff_hasText.mp hr
    exact ⟨r.file, r.range, content, ht⟩
  · rintro ⟨file, range, content, ht⟩
    obtain ⟨r, hr⟩ := exists_extract_eq_ok_iff.mpr ⟨ht.order, ht.start, ht.stop⟩
    exact ⟨r, resolve_eq_found_iff.mpr ⟨file, range, ht.toNames,
      textAt_eq_ok_iff.mpr ⟨content, contentOf_eq_ok_iff.mpr ht.text, hr⟩⟩⟩

/-- A place fails exactly if it names a file and has no text. -/
theorem exists_error_iff {l : SparseLocation} :
    (∃ e, resolve w openText l = .error e) ↔ (∃ file range, l.Names w file range) ∧
      ¬∃ file range content, l.HasText w openText file range content := by
  rw [← exists_found_iff]
  constructor
  · rintro ⟨e, he⟩
    obtain ⟨file, range, hn, -⟩ := resolve_eq_error_iff.mp he
    refine ⟨⟨file, range, hn⟩, ?_⟩
    rintro ⟨r, hr⟩
    cases he.symm.trans hr
  · rintro ⟨⟨file, range, hn⟩, hfound⟩
    cases ht : textAt w openText file range with
    | ok r => exact (hfound ⟨r, resolve_eq_found_iff.mpr ⟨file, range, hn, ht⟩⟩).elim
    | error e => exact ⟨e, resolve_eq_error_iff.mpr ⟨file, range, hn, ht⟩⟩

/-! ### Lists of places -/

/-- The result of a place, if it has one. -/
def result? (w : World) (openText : OpenText) (l : SparseLocation) : Option SearchResult :=
  match resolve w openText l with
  | .ok (.found r) => some r
  | _ => none

/-- The error of a place, if it fails. -/
def failure? (w : World) (openText : OpenText) (l : SparseLocation) : Option SearchError :=
  match resolve w openText l with
  | .ok _ => none
  | .error e => some e

theorem result?_eq_some_iff {l : SparseLocation} {r : SearchResult} :
    result? w openText l = some r ↔ resolve w openText l = .ok (.found r) := by
  unfold result?
  split
  · next r' hr => simp [hr]
  · next hr => exact ⟨nofun, fun h => (hr r h).elim⟩

theorem failure?_eq_some_iff {l : SparseLocation} {e : SearchError} :
    failure? w openText l = some e ↔ resolve w openText l = .error e := by
  unfold failure?
  split
  · next h => simp [h]
  · next h => simp [h]

theorem value_buildFrom (results : SearchResults) (index : Nat) (ls : List SparseLocation) :
    (buildFrom w openText results index ls).value =
      (ls.filterMap (result? w openText)).foldl SearchResults.push results := by
  induction ls generalizing results index with
  | nil => rfl
  | cons l ls ih =>
    rw [buildFrom]
    cases hr : resolve w openText l with
    | error e =>
      have hnone : result? w openText l = none := by rw [result?, hr]
      rw [List.filterMap_cons_none hnone]
      exact ih results (index + 1)
    | ok outcome =>
      cases outcome with
      | found r =>
        rw [List.filterMap_cons_some (result?_eq_some_iff.mpr hr)]
        exact ih (results.push r) (index + 1)
      | skipped reason =>
        have hnone : result? w openText l = none := by rw [result?, hr]
        rw [List.filterMap_cons_none hnone]
        exact ih results (index + 1)

/-- The notices are the errors, each with the index of its place. -/
theorem notices_buildFrom (results : SearchResults) (index : Nat) (ls : List SparseLocation) :
    (buildFrom w openText results index ls).notices =
      (ls.zipIdx index).filterMap fun (l, i) =>
        (failure? w openText l).map (Notice.locationFailed i) := by
  induction ls generalizing results index with
  | nil => rfl
  | cons l ls ih =>
    rw [buildFrom, List.zipIdx_cons, List.filterMap_cons]
    cases hr : resolve w openText l with
    | error e =>
      simp only [failure?_eq_some_iff.mpr hr, Option.map_some]
      exact congrArg _ (ih results (index + 1))
    | ok outcome =>
      have hnone : failure? w openText l = none := by rw [failure?, hr]
      simp only [hnone, Option.map_none]
      cases outcome with
      | found r => exact ih (results.push r) (index + 1)
      | skipped reason => exact ih results (index + 1)

/-- The groups of a list of places. A place gives a result exactly if it has text, and these are
grouped by file without loss, in the order of the places. A place gives an error exactly if it names
a file and has no text, and these are noted, with the index of the place and in the order of the
places. -/
theorem groups_build (w : World) (openText : OpenText) (locations : List SparseLocation) :
    let built := build w openText locations
    let results := locations.filterMap (result? w openText)
    (∀ l, (∃ r, result? w openText l = some r) ↔
      ∃ file range content, l.HasText w openText file range content) ∧
    (∀ l r, result? w openText l = some r ↔ ∃ content,
      l.HasText w openText r.file r.range content ∧
      content.line r.range.start.line = .ok r.line ∧
      content.sub r.range.start r.range.stop = .ok r.matched) ∧
    (∀ file, built.value.find? file =
      let own := results.filter fun r => r.file.Same file
      if own = [] then none else some own) ∧
    built.value.keys = Path.firstSpellings (results.map (·.file)) ∧
    built.value.total = results.length ∧
    (∀ group ∈ built.value.entries, group.2 ≠ []) ∧
    (∀ l, (∃ e, failure? w openText l = some e) ↔ (∃ file range, l.Names w file range) ∧
      ¬∃ file range content, l.HasText w openText file range content) ∧
    built.notices = (locations.zipIdx.filterMap fun (l, index) =>
      (failure? w openText l).map (Notice.locationFailed index)) ∧
    ∀ notice ∈ built.notices, notice.level = .error := by
  intro built results
  have hvalue : built.value = results.foldl SearchResults.push {} := value_buildFrom {} 0 locations
  have hnotices : built.notices = locations.zipIdx.filterMap fun (l, index) =>
      (failure? w openText l).map (Notice.locationFailed index) := notices_buildFrom {} 0 locations
  refine ⟨fun l => ?_, fun l r => ?_, fun file => ?_, ?_, ?_, fun group hg => ?_, fun l => ?_,
    hnotices, fun notice hn => ?_⟩
  · simp only [result?_eq_some_iff, exists_found_iff]
  · rw [result?_eq_some_iff, resolve_eq_found_iff_hasText]
  · rw [hvalue, SearchResults.find?_foldl_push]
  · rw [hvalue, SearchResults.keys_foldl_push]
  · rw [hvalue, SearchResults.total_foldl_push]
  · rw [hvalue] at hg
    exact SearchResults.ne_nil_of_mem_foldl_push hg
  · simp only [failure?_eq_some_iff, exists_error_iff]
  · rw [hnotices] at hn
    obtain ⟨⟨l, index⟩, -, he⟩ := List.mem_filterMap.mp hn
    obtain ⟨e, -, rfl⟩ := Option.map_eq_some_iff.mp he
    rfl

end Search

end EditorSession
