import EditorSession.Notice

/-! Looking up places and grouping the results.

The text of a file is that of the open editor that shows it, else what is on disk. A place that
cannot be looked up gives a notice and no result, and the places after it are not affected. -/

namespace EditorSession
namespace Search

/-- The text of open editors by file. -/
abbrev OpenText := Path → Option Content

/-- The text of a file. -/
def contentOf (w : World) (openText : OpenText) (file : Path) : Except SearchError Content :=
  match openText file with
  | some content => .ok content
  | none =>
    match w.readText file with
    | .ok text => .ok ⟨text⟩
    | .error cause => .error (.read file cause)

/-- The match at a range of a file with the given text. -/
def extract (file : Path) (range : Range) (content : Content) : Except SearchError SearchResult :=
  match content.line range.start.line with
  | .error cause => .error (.extract file cause)
  | .ok line =>
    match content.sub range.start range.stop with
    | .error cause => .error (.extract file cause)
    | .ok matched => .ok { file, range, line, matched }

/-- What becomes of one place. -/
def resolve (w : World) (openText : OpenText) (l : SparseLocation) :
    Except SearchError LocationOutcome :=
  match l.complete? with
  | none => .ok (.skipped .incomplete)
  | some location =>
    match w.resolve location.uri with
    | .error reason => .ok (.skipped (.unresolvable reason))
    | .ok file => do
      let content ← contentOf w openText file
      let result ← extract file location.range content
      .ok (.found result)

/-- The results of places, of which the first has the given index, after those in `results`. -/
def buildFrom (w : World) (openText : OpenText) (results : SearchResults) :
    Nat → List SparseLocation → Logged SearchResults
  | _, [] => pure results
  | index, l :: rest =>
    match resolve w openText l with
    | .ok (.found r) => buildFrom w openText (results.push r) (index + 1) rest
    | .ok (.skipped _) => buildFrom w openText results (index + 1) rest
    | .error e => do
      Logged.withNotice (.locationFailed index e) ()
      buildFrom w openText results (index + 1) rest

/-- The results of places by file. -/
def build (w : World) (openText : OpenText) (locations : List SparseLocation) :
    Logged SearchResults :=
  buildFrom w openText {} 0 locations

end Search

end EditorSession
