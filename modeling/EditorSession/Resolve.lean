import EditorSession.Disk
import EditorSession.Url.Basic

/-! From a URL to the regular file that it names, and from a file to its text. -/

namespace EditorSession

/-- Why a URL leads to no file. -/
inductive ResolveError where
  | notAFileUri (uri : Url)
  | missing (file : Path)
  | notRegularFile (file : Path)
deriving DecidableEq, Repr

namespace ResolveError

def message : ResolveError → String
  | notAFileUri uri => s!"URI is not a local file path: {uri.toString}"
  | missing file => s!"file does not exist: {file.display}"
  | notRegularFile file => s!"not a regular file: {file.display}"

end ResolveError

/-- Why a file has no text. -/
inductive ReadError where
  | notUtf8 (file : Path)
  | io (file : Path) (cause : DiskError)
deriving DecidableEq, Repr

namespace ReadError

def message : ReadError → String
  | notUtf8 file => s!"file is not valid UTF-8: {file.display}"
  | io file cause => s!"failed to read {file.display}: {cause.message}"

end ReadError

namespace World

/-- The regular file that a URL names. -/
def resolve (w : World) (uri : Url) : Except ResolveError Path :=
  match uri.filePath? with
  | none => .error (.notAFileUri uri)
  | some file =>
    if !w.pathExists file then .error (.missing file)
    else if !w.isFile file then .error (.notRegularFile file)
    else .ok file

/-- The text of a file. -/
def readUtf8 (w : World) (file : Path) : Except ReadError String :=
  match w.readText file with
  | .ok text => .ok text
  | .error .notText => .error (.notUtf8 file)
  | .error cause => .error (.io file cause)

end World

end EditorSession
