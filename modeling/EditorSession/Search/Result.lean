import EditorSession.FileMap
import EditorSession.Protocol.Location
import EditorSession.Resolve

/-! Results of a search, and what becomes of a place that is looked up. -/

namespace EditorSession

/-- A match: `line` is the line on which it begins, and `matched` the text that its range covers. -/
structure SearchResult where
  file : Path
  range : Range
  line : String
  matched : String
deriving DecidableEq, Repr

/-- Results by file, the files in the order of their first result. -/
abbrev SearchResults := FileMap (List SearchResult)

namespace SearchResults

def push (results : SearchResults) (r : SearchResult) : SearchResults :=
  results.alter r.file fun list => list.getD [] ++ [r]

def total (results : SearchResults) : Nat := (results.entries.flatMap (·.2)).length

end SearchResults

/-- Why the text at a place cannot be had. -/
inductive SearchError where
  | read (file : Path) (cause : DiskError)
  | extract (file : Path) (cause : TextError)
deriving DecidableEq, Repr

namespace SearchError

def cause : SearchError → String
  | read _ cause => cause.message
  | extract _ cause => cause.message

def message : SearchError → String
  | read file cause => s!"failed to read {file.display}: {cause.message}"
  | extract file cause => s!"failed to extract text from {file.display}: {cause.message}"

/-- The message with the chain of its causes after it. -/
def fullMessage (e : SearchError) : String := s!"{e.message}: {e.cause}"

end SearchError

/-- Why a place is passed over. -/
inductive SkipReason where
  | incomplete
  | unresolvable (reason : ResolveError)
deriving DecidableEq, Repr

inductive LocationOutcome where
  | found (result : SearchResult)
  | skipped (reason : SkipReason)
deriving DecidableEq, Repr

end EditorSession
