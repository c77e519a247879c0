import EditorSession.Path
import EditorSession.Url.Host

/-! URLs taken apart, how they are written, and the file paths that they name. -/

namespace EditorSession

/-- What stands between `//` and the path. -/
structure Authority where
  username : String := ""
  password : Option String := none
  host : Option UrlHost := none
  port : Option Nat := none
deriving DecidableEq, Repr

/-- The path of a URL: text that does not begin with a slash, or segments with a slash before each.
The path with no segments is empty. -/
inductive UrlPath where
  | rootless (text : String)
  | rooted (segments : List String)
deriving DecidableEq, Repr

/-- A URL. Its parts are percent-encoded, and the query and the fragment are without their marks. -/
structure Url where
  scheme : String
  authority : Option Authority
  path : UrlPath
  query : Option String := none
  fragment : Option String := none
deriving DecidableEq, Repr

namespace Authority

def credentials (a : Authority) : String :=
  match a.password with
  | some password => a.username ++ ":" ++ password ++ "@"
  | none => if a.username = "" then "" else a.username ++ "@"

def toString (a : Authority) : String :=
  a.credentials ++ (a.host.map UrlHost.toString).getD ""
    ++ (a.port.map fun p => s!":{p}").getD ""

end Authority

namespace UrlPath

def toString : UrlPath → String
  | rootless text => text
  | rooted segments => String.join (segments.map ("/" ++ ·))

end UrlPath

namespace Url

/-- The path as it is written. Without an authority, a path that begins with two slashes is written
after `/.`, so that it is not taken for one. -/
def writtenPath (u : Url) : String :=
  match u.authority, u.path with
  | none, .rooted ("" :: s :: rest) => "/." ++ (UrlPath.rooted ("" :: s :: rest)).toString
  | _, path => path.toString

def toString (u : Url) : String :=
  u.scheme ++ ":" ++ (u.authority.map fun a => "//" ++ a.toString).getD "" ++ u.writtenPath
    ++ (u.query.map ("?" ++ ·)).getD "" ++ (u.fragment.map ("#" ++ ·)).getD ""

/-- Whether the URL names a place on this machine: it has no host, or the host `localhost`. -/
def isLocal (u : Url) : Bool :=
  match u.authority.bind (·.host) with
  | none => true
  | some host => host == .domain "localhost"

/-- Whether bytes end in an ASCII letter and `:` or `|`, after at least one more byte. -/
def endsInDrive (bytes : List UInt8) : Bool :=
  match bytes.reverse with
  | mark :: letter :: _ :: _ =>
    (mark == 0x3A || mark == 0x7C) && (Char.ofNat letter.toNat).isAlpha
  | _ => false

/-- The bytes of a path with the given segments, decoded; a path that ends in a drive letter gets a
slash at the end. -/
def segmentBytes (segments : List String) : List UInt8 :=
  let bytes := segments.flatMap fun s => Path.slash :: Percent.decode (Utf8.ofString s)
  if endsInDrive bytes then bytes ++ [Path.slash] else bytes

/-- The file path that a URL names. The scheme, the query and the fragment have no part in it. -/
def filePath? (u : Url) : Option Path :=
  match u.path with
  | .rooted (s :: segments) => if u.isLocal then some ⟨segmentBytes (s :: segments)⟩ else none
  | _ => none

end Url

end EditorSession
