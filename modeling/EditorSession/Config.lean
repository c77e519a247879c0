import EditorSession.Path

/-! Where data and the log are kept. -/

namespace EditorSession
namespace Config

def applicationName : Path := .ofString "editor-lsp-client"

def logFileName : Path := .ofString "editor-lsp-client.log"

/-- The directory for data: under the data home if one is set, else under `.local/share` of the home
directory, else under the current directory. -/
def dataDir (dataHome : Option Path) (home : Option Path) : Path :=
  let parent :=
    match dataHome, home with
    | some dir, _ => dir
    | none, some home => home.join (.ofString ".local/share")
    | none, none => .ofString "."
  parent.join applicationName

def logFile (dataHome : Option Path) (home : Option Path) : Path :=
  (dataDir dataHome home).join logFileName

end Config

end EditorSession
