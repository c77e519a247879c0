import EditorSession.Diagnostics.FileKind
import EditorSession.FileMap
import EditorSession.Protocol.Diagnostic

/-! The latest diagnostics of every file, and their groups for display. -/

namespace EditorSession

/-- The diagnostics of one file that has some. -/
structure DiagnosticGroup where
  kind : FileKind
  file : Path
  diagnostics : List Diagnostic
deriving Repr

namespace DiagnosticGroup

/-- The number of diagnostics of a severity. One without a severity counts as an error. -/
def count (g : DiagnosticGroup) (severity : Severity) : Nat :=
  (g.diagnostics.filter fun d => d.severity.getD Severity.error == severity).length

end DiagnosticGroup

structure DiagnosticStore where
  files : FileMap (List Diagnostic) := {}
deriving Repr

namespace DiagnosticStore

/-- The store with `diagnostics` in place of all that it had for `file`. -/
def replace (s : DiagnosticStore) (file : Path) (diagnostics : List Diagnostic) : DiagnosticStore :=
  ⟨s.files.insert file diagnostics⟩

def get? (s : DiagnosticStore) (file : Path) : Option (List Diagnostic) := s.files.find? file

def size (s : DiagnosticStore) : Nat := s.files.size

def isEmpty (s : DiagnosticStore) : Bool := s.files.isEmpty

/-- The store without any file. -/
def clear (_ : DiagnosticStore) : DiagnosticStore := {}

/-- A group for every file that has diagnostics, in the order of the files. -/
def groups (s : DiagnosticStore) : List DiagnosticGroup :=
  (s.files.entries.filter fun e => !e.2.isEmpty).map fun e => ⟨FileKind.ofPath e.1, e.1, e.2⟩

end DiagnosticStore

end EditorSession
