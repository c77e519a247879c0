import EditorSession.Text.Quoted

/-! File paths as byte strings.

A path is read as a list of components: repeated slashes, a slash at the end and `.` after the
start make no difference to it. Two paths are `Same` if their components agree, which is how
collections keyed by files compare them, and `sameFile` if their absolute forms agree, which is how
editors are found. The spelling is kept for output. -/

namespace EditorSession

structure Path where
  bytes : List UInt8
deriving DecidableEq, Repr, Inhabited

/-- A file name: bytes without a slash. -/
abbrev Name := List UInt8

namespace Path

def slash : UInt8 := 0x2F

def dot : UInt8 := 0x2E

inductive Component where
  | root
  /-- A dot at the start of a relative path. -/
  | here
  | up
  | name (n : Name)
deriving DecidableEq, Repr

namespace Component

/-- The component that a piece between slashes stands for, if it is one. -/
def ofPiece? (piece : Name) : Option Component :=
  if piece = [] ∨ piece = [dot] then none
  else if piece = [dot, dot] then some up
  else some (name piece)

end Component

def ofString (s : String) : Path := ⟨Utf8.ofString s⟩

/-- The path for output; bytes that are not UTF-8 show as U+FFFD. -/
def display (p : Path) : String := Utf8.toStringLossy p.bytes

/-- The path in quotes, as log records show it. -/
def quoted (p : Path) : String := quoteBytes p.bytes

def isAbsolute (p : Path) : Bool := p.bytes.head? == some slash

def pieces (p : Path) : List Name := p.bytes.splitOn slash

def components (p : Path) : List Component :=
  if p.isAbsolute then .root :: p.pieces.filterMap Component.ofPiece?
  else
    (if p.pieces.head? = some [dot] then [.here] else [])
      ++ p.pieces.filterMap Component.ofPiece?

/-- Equality of paths as lists of components. -/
def Same (p q : Path) : Prop := p.components = q.components

instance (p q : Path) : Decidable (Same p q) := inferInstanceAs (Decidable (_ = _))

theorem Same.refl (p : Path) : Same p p := rfl

theorem Same.symm {p q : Path} (h : Same p q) : Same q p := Eq.symm h

theorem Same.trans {p q r : Path} (h : Same p q) (h' : Same q r) : Same p r := Eq.trans h h'

theorem Same.congr_right {p q : Path} (h : Same p q) (r : Path) : Same r p ↔ Same r q :=
  ⟨fun hr => hr.trans h, fun hr => hr.trans h.symm⟩

/-- The path of `p` as seen from the directory `base`. An absolute path stays as it is. -/
def join (base p : Path) : Path :=
  if p.isAbsolute then p
  else if base.bytes = [] ∨ base.bytes.getLast? = some slash then ⟨base.bytes ++ p.bytes⟩
  else ⟨base.bytes ++ slash :: p.bytes⟩

/-- The components of the absolute form of a path, seen from the directory `cwd`. -/
def absolute (p cwd : Path) : List Component :=
  if p.isAbsolute then p.components
  else cwd.components ++ p.components.filter (· ≠ .here)

/-- Whether two paths have the same absolute form. The empty path has none and is compared by its
components. -/
def sameFile (cwd p q : Path) : Bool :=
  if p.bytes = [] ∨ q.bytes = [] then p.components = q.components
  else p.absolute cwd = q.absolute cwd

/-- The last component, if it is a name. -/
def fileName? (p : Path) : Option Name :=
  match p.components.getLast? with
  | some (.name n) => some n
  | _ => none

/-- What follows the last dot of a name, unless the name begins with that dot. -/
def extensionOf? (n : Name) : Option Name :=
  match (n.splitOn dot).reverse with
  | _ :: ([] :: []) => none
  | last :: _ :: _ => some last
  | _ => none

def extension? (p : Path) : Option Name := p.fileName?.bind extensionOf?

end Path

end EditorSession
