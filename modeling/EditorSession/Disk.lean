import EditorSession.Path

/-! Files and directories, and how a path finds them.

A `Disk` maps the names on the way from the root to a directory or to the bytes of a file. A path is
walked piece by piece: each piece but the last has to be found and to be a directory, an empty piece
or a dot stays in a directory, and two dots leave it. A `World` is a disk seen from a current
directory.

Directories and regular files are all that a disk has. There are no symbolic links, so a path leads
to one place only, and no permissions: what is there can be listed, read and written. There are no
other kinds of files, no limits on space and no failing devices, and nothing changes a disk while an
operation is at work. -/

namespace EditorSession

inductive Node where
  | dir
  | file (bytes : List UInt8)
deriving DecidableEq, Repr

/-- Why a file cannot be read. -/
inductive DiskError where
  | notFound
  | notADirectory
  | isADirectory
  | nameTooLong
  | nulInName
  | notText
deriving DecidableEq, Repr

namespace DiskError

def message : DiskError → String
  | notFound => "No such file or directory (os error 2)"
  | notADirectory => "Not a directory (os error 20)"
  | isADirectory => "Is a directory (os error 21)"
  | nameTooLong => "File name too long (os error 36)"
  | nulInName => "file name contained an unexpected NUL byte"
  | notText => "stream did not contain valid UTF-8"

end DiskError

/-- The entries of a file system; the first one of two for the same names counts. -/
structure Disk where
  entries : List (List Name × Node) := []
deriving DecidableEq, Repr, Inhabited

namespace Disk

def find? (d : Disk) (names : List Name) : Option Node :=
  if names = [] then some .dir else (d.entries.find? fun e => e.1 == names).map (·.2)

def isDir (d : Disk) (names : List Name) : Bool := d.find? names == some .dir

/-- Walks from the directory or file at `names`. -/
def walk (d : Disk) : List Name → List Name → Except DiskError (List Name)
  | names, [] => .ok names
  | names, piece :: rest =>
    if !d.isDir names then .error .notADirectory
    else if piece = [] ∨ piece = [Path.dot] then walk d names rest
    else if piece = [Path.dot, Path.dot] then walk d names.dropLast rest
    else if 255 < piece.length then .error .nameTooLong
    else if (d.find? (names ++ [piece])).isNone then .error .notFound
    else walk d (names ++ [piece]) rest

/-- Walks as `walk` does, and makes the directories that it misses. -/
def makeDirs (d : Disk) : List Name → List Name → Except DiskError Disk
  | names, [] => if d.isDir names then .ok d else .error .notADirectory
  | names, piece :: rest =>
    let next := names ++ [piece]
    if !d.isDir names then .error .notADirectory
    else if piece = [] ∨ piece = [Path.dot] then makeDirs d names rest
    else if piece = [Path.dot, Path.dot] then makeDirs d names.dropLast rest
    else if 255 < piece.length then .error .nameTooLong
    else if (d.find? next).isSome then makeDirs d next rest
    else makeDirs ⟨(next, .dir) :: d.entries⟩ next rest

/-- The disk with a file. -/
def put (d : Disk) (names : List Name) (bytes : List UInt8) : Disk :=
  ⟨(names, .file bytes) :: d.entries.filter fun e => e.1 != names⟩

/-- The disk without the file or directory at `names` and all that is in it. -/
def erase (d : Disk) (names : List Name) : Disk :=
  ⟨d.entries.filter fun e => !names.isPrefixOf e.1⟩

theorem find?_put_self {d : Disk} {names : List Name} (bytes : List UInt8) (h : names ≠ []) :
    (d.put names bytes).find? names = some (.file bytes) := by
  simp [put, find?, h]

theorem find?_put_of_ne {d : Disk} {names other : List Name} (bytes : List UInt8)
    (h : other ≠ names) : (d.put names bytes).find? other = d.find? other := by
  have same : (fun e : List Name × Node => !decide (e.1 = names) && decide (e.1 = other)) =
      fun e => e.1 == other := by
    funext e
    by_cases he : e.1 = other <;> simp [he, h]
  simp [put, find?, h.symm, List.find?_filter, same]

end Disk

/-- A disk and the absolute path of the current directory. -/
structure World where
  cwd : Path
  disk : Disk
deriving DecidableEq, Repr, Inhabited

namespace World

/-- The pieces of a path on its way from the root. -/
def route (w : World) (p : Path) : Except DiskError (List Name) :=
  if (0 : UInt8) ∈ p.bytes then .error .nulInName
  else if p.bytes = [] then .error .notFound
  else if 4096 ≤ p.bytes.length then .error .nameTooLong
  else .ok (w.cwd.join p).pieces

/-- The names that a path leads to. -/
def locate (w : World) (p : Path) : Except DiskError (List Name) := do
  w.disk.walk [] (← w.route p)

def node (w : World) (p : Path) : Except DiskError Node := do
  match w.disk.find? (← w.locate p) with
  | some node => .ok node
  | none => .error .notFound

def pathExists (w : World) (p : Path) : Bool := (w.node p).isOk

def isFile (w : World) (p : Path) : Bool :=
  match w.node p with
  | .ok (.file _) => true
  | _ => false

def readBytes (w : World) (p : Path) : Except DiskError (List UInt8) := do
  match ← w.node p with
  | .file bytes => .ok bytes
  | .dir => .error .isADirectory

def readText (w : World) (p : Path) : Except DiskError String := do
  match Utf8.toString? (← w.readBytes p) with
  | some text => .ok text
  | none => .error .notText

/-- The names of a file that exists or could be made in a directory that exists. -/
def locateFile (w : World) (p : Path) : Except DiskError (List Name) := do
  let pieces ← w.route p
  let above ← w.disk.walk [] pieces.dropLast
  let name := pieces.getLast?.getD []
  if !w.disk.isDir above then .error .notADirectory
  else if name ∈ [[], [Path.dot], [Path.dot, Path.dot]] then .error .isADirectory
  else if w.disk.isDir (above ++ [name]) then .error .isADirectory
  else if 255 < name.length then .error .nameTooLong
  else .ok (above ++ [name])

/-- Makes a directory, and those on the way to it. -/
def makeDirs (w : World) (p : Path) : Except DiskError World := do
  .ok { w with disk := ← w.disk.makeDirs [] (← w.route p) }

/-- Writes a file anew, and makes the directories on the way to it. -/
def write (w : World) (p : Path) (bytes : List UInt8) : Except DiskError World := do
  let w := { w with disk := ← w.disk.makeDirs [] (← w.route p).dropLast }
  .ok { w with disk := w.disk.put (← w.locateFile p) bytes }

/-- Adds bytes at the end of a file, which is made if it is missing. -/
def append (w : World) (p : Path) (bytes : List UInt8) : Except DiskError World := do
  let names ← w.locateFile p
  match w.disk.find? names with
  | some (.file old) => .ok { w with disk := w.disk.put names (old ++ bytes) }
  | _ => .ok { w with disk := w.disk.put names bytes }

/-- Removes a file, or a directory and all that is in it. -/
def erase (w : World) (p : Path) : World :=
  match w.locate p with
  | .ok names => { w with disk := w.disk.erase names }
  | .error _ => w

end World

end EditorSession
