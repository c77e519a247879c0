import EditorSession.Url.Basic

/-! Reading absolute URLs.

`Url.parse?` follows the URL Standard. The schemes `http`, `https`, `ws`, `wss`, `ftp` and `file` are
special: a backslash separates their segments as a slash does, and their hosts are domains. Dot
segments are resolved while the path is read, and a drive letter is never left.

Tabs and line ends are breaks, which no part of a URL keeps. They make a difference in one place: one
that follows a drive letter at the front of a `file` path ends its segment. -/

namespace EditorSession
namespace Url

/-! ### Breaks -/

def isBreak (c : Char) : Bool := c == '\t' || c == '\n' || c == '\r'

/-- A text without its breaks. -/
def unbroken (cs : List Char) : List Char := cs.filter fun c => !isBreak c

/-! ### Schemes -/

/-- The port that a special scheme has if none is given. -/
def defaultPort? : String → Option Nat
  | "http" | "ws" => some 80
  | "https" | "wss" => some 443
  | "ftp" => some 21
  | _ => none

def isSpecial (scheme : String) : Bool := (defaultPort? scheme).isSome || scheme == "file"

def isSchemeChar (c : Char) : Bool := c.isAlphanum || c == '+' || c == '-' || c == '.'

/-- The scheme in lower case, and the text after its colon. -/
def readScheme? (cs : List Char) : Option (String × List Char) :=
  let belongs (c : Char) : Bool := isSchemeChar c || isBreak c
  match unbroken (cs.takeWhile belongs), cs.dropWhile belongs with
  | c :: scheme, ':' :: rest =>
    if c.isAlpha then some (String.ofList ((c :: scheme).map Char.toLower), rest) else none
  | _, _ => none

/-! ### Paths -/

def isSeparator (special : Bool) (c : Char) : Bool := c == '/' || (special && c == '\\')

def endsPath (c : Char) : Bool := c == '?' || c == '#'

/-- The pieces of a path text between its separators. -/
def pathPieces (special : Bool) (cs : List Char) : List (List Char) :=
  (cs.map fun c => if isSeparator special c then '/' else c).splitOn '/'

def isDot (segment : List Char) : Bool :=
  segment == ['.'] || segment.map Char.toLower == ['%', '2', 'e']

def isDoubleDot (segment : List Char) : Bool :=
  segment.map Char.toLower ∈
    [['.', '.'], ['.', '%', '2', 'e'], ['%', '2', 'e', '.'], ['%', '2', 'e', '%', '2', 'e']]

/-- A letter and `:` or `|`. -/
def isDrive : List Char → Bool
  | [c, mark] => c.isAlpha && (mark == ':' || mark == '|')
  | _ => false

/-- Whether a segment is a drive letter, or goes on with a backslash after one. -/
def startsWithDrive : List Char → Bool
  | c :: mark :: rest => isDrive [c, mark] && (rest == [] || rest.head? == some '\\')
  | _ => false

/-- The drive letter in front of a break and the text after the break, if there is any. -/
def splitAtBreak? (piece : List Char) : Option (List Char × List Char) :=
  match piece.dropWhile isBreak with
  | [] => none
  | c :: more =>
    match more.dropWhile isBreak with
    | ':' :: rest =>
      if c.isAlpha && rest.head?.any isBreak && unbroken rest != [] then
        some ([c, ':'], unbroken rest)
      else none
    | _ => none

/-- Segments read so far, the last one first, and whether a drive letter at the front has taken the
place of the host. -/
structure PathBuffer where
  reversed : List (List Char) := []
  dropsHost : Bool := false

namespace PathBuffer

/-- Leaves the last segment, unless it starts with a drive letter. -/
def leave (b : PathBuffer) : PathBuffer :=
  match b.reversed with
  | [] => b
  | last :: rest => if startsWithDrive last then b else { b with reversed := rest }

def push (b : PathBuffer) (segment : List Char) : PathBuffer :=
  { b with reversed := segment :: b.reversed }

/-- Adds a segment that is no dot segment. A drive letter at the front of a `file` path gets a
colon. -/
def pushNamed (file : Bool) (b : PathBuffer) (segment : List Char) : PathBuffer :=
  match b.reversed, segment with
  | [], [c, mark] => if file && isDrive [c, mark] then ⟨[[c, ':']], true⟩ else b.push segment
  | _, segment => b.push segment

/-- Takes a piece of a path. A dot segment that ends the path leaves an empty segment there. -/
def take (file ends : Bool) (b : PathBuffer) (piece : List Char) : PathBuffer :=
  match if file && b.reversed.isEmpty then splitAtBreak? piece else none with
  | some (drive, rest) => (b.push drive).push (Percent.encode Percent.inPath rest)
  | none =>
    let segment := Percent.encode Percent.inPath (unbroken piece)
    if isDoubleDot segment then if ends then b.leave.push [] else b.leave
    else if isDot segment then if ends then b.push [] else b
    else b.pushNamed file segment

/-- Reads the pieces of a path, the last of which ends it. -/
def read (file : Bool) (b : PathBuffer) : List (List Char) → PathBuffer
  | [] => b
  | [last] => b.take file true last
  | piece :: rest => read file (b.take file false piece) rest

def segments (b : PathBuffer) : List (List Char) := b.reversed.reverse

/-- The path less its empty segments at the front; one is left if there is no other. -/
def trimmed (b : PathBuffer) : UrlPath :=
  match b.segments.dropWhile (· = []) with
  | [] => .rooted [""]
  | rest => .rooted (rest.map String.ofList)

def path (b : PathBuffer) : UrlPath := .rooted (b.segments.map String.ofList)

end PathBuffer

def readPath (special file : Bool) (cs : List Char) : PathBuffer :=
  ({} : PathBuffer).read file (pathPieces special cs)

/-! ### Authorities -/

/-- The text before and after the last `@`. -/
def splitUserinfo? (cs : List Char) : Option (List Char × List Char) :=
  if '@' ∈ cs then
    let after := (cs.reverse.takeWhile (· ≠ '@')).reverse
    some (cs.take (cs.length - after.length - 1), after)
  else none

/-- User name and password; an empty password counts as none. -/
def readUserinfo (cs : List Char) : String × Option String :=
  let encode (cs : List Char) := String.ofList (Percent.encode Percent.inUserinfo cs)
  let password := (cs.dropWhile (· ≠ ':')).drop 1
  (encode (cs.takeWhile (· ≠ ':')), if password = [] then none else some (encode password))

/-- The host text up to a colon outside brackets, and the text from that colon on. -/
def splitHost (bracket : Bool) : List Char → List Char × List Char
  | [] => ([], [])
  | c :: cs =>
    if c = ':' ∧ !bracket then ([], c :: cs)
    else
      let bracket := if c = '[' then true else if c = ']' then false else bracket
      let (host, rest) := splitHost bracket cs
      (c :: host, rest)

/-- The port after a colon, without the default one, and the text after its digits. Only a
backslash may follow it. -/
def readPort? (scheme : String) : List Char → Option (Option Nat × List Char)
  | ':' :: cs =>
    let digits := cs.takeWhile Char.isDigit
    let rest := cs.dropWhile Char.isDigit
    let port := digits.foldl (fun n c => 10 * n + (c.toNat - 48)) 0
    if 65535 < port ∨ !(rest.isEmpty || rest.head? == some '\\') then none
    else if digits = [] ∨ defaultPort? scheme = some port then some (none, rest)
    else some (some port, rest)
  | rest => some (none, rest)

/-- The authority in `cs`, and the part of it that belongs to the path. `ends` says whether nothing
follows `cs`. -/
def readAuthority? (scheme : String) (ends : Bool) (cs : List Char) :
    Option (Authority × List Char) := do
  let special := isSpecial scheme
  let (userinfo, hostPort) := (splitUserinfo? cs).getD ([], cs)
  if cs.head? = some '@' ∧ userinfo = [] ∧ hostPort = [] ∧ !ends then none
  let (username, password) := readUserinfo userinfo
  let (hostText, portText) := splitHost false hostPort
  let host ←
    if special then (UrlHost.parse? hostText).map some
    else if hostText = [] then some none
    else (UrlHost.parseVerbatim? hostText).map some
  let (port, rest) ← readPort? scheme portText
  if host.isNone ∧ (username ≠ "" ∨ password.isSome ∨ portText ≠ []) then none
  some ({ username, password, host, port }, rest)

/-! ### The parts together -/

/-- A URL with the query and fragment that `cs` begins with. -/
def withTail (u : Url) (cs : List Char) : Url :=
  let inSet := if isSpecial u.scheme then Percent.inSpecialQuery else Percent.inQuery
  let front := cs.takeWhile (· ≠ '#')
  let back := cs.dropWhile (· ≠ '#')
  { u with
    query := match front with
      | '?' :: query => some (String.ofList (Percent.encode inSet query))
      | _ => none
    fragment := match back with
      | '#' :: fragment => some (String.ofList (Percent.encode Percent.inFragment fragment))
      | _ => none }

/-- What follows `//` or its like in a URL whose scheme is not `file`. -/
def readHierarchical? (scheme : String) (cs : List Char) : Option Url := do
  let special := isSpecial scheme
  let ends (c : Char) : Bool := isSeparator special c || endsPath c
  let after := cs.dropWhile fun c => !ends c
  let (authority, extra) ← readAuthority? scheme after.isEmpty (cs.takeWhile fun c => !ends c)
  let after := extra ++ after
  let pathText := after.takeWhile fun c => !endsPath c
  let tail := after.dropWhile fun c => !endsPath c
  let path : UrlPath :=
    match pathText with
    | [] => if special then .rooted [""] else .rooted []
    | c :: rest => (readPath special false (if isSeparator special c then rest else c :: rest)).path
  some ((⟨scheme, some authority, path, none, none⟩ : Url).withTail tail)

/-- What follows the scheme of a URL whose scheme is not special. -/
def readOther? (scheme : String) (cs : List Char) : Option Url :=
  let pathText := cs.takeWhile fun c => !endsPath c
  let tail := cs.dropWhile fun c => !endsPath c
  match cs with
  | '/' :: '/' :: rest => readHierarchical? scheme rest
  | '/' :: _ =>
    some ((⟨scheme, none, (readPath false false (pathText.drop 1)).path, none, none⟩ : Url).withTail
      tail)
  | _ =>
    let path := String.ofList (Percent.encode Percent.isControl pathText)
    some ((⟨scheme, none, .rootless path, none, none⟩ : Url).withTail tail)

/-- The host that `//` begins in a `file` URL and the text after it. A drive letter there belongs to
the path, and `localhost` counts as no host. -/
def readFileHost? (cs : List Char) : Option (Option UrlHost × List Char) :=
  let ends (c : Char) : Bool := isSeparator true c || endsPath c
  let hostText := unbroken (cs.takeWhile fun c => !ends c)
  if isDrive hostText then some (none, cs)
  else if hostText = [] then some (none, cs.dropWhile isBreak)
  else
    match UrlHost.parse? hostText with
    | none => none
    | some host =>
      some (if host = .domain "localhost" then none else some host, cs.dropWhile fun c => !ends c)

/-- What follows the scheme of a `file` URL, breaks included. -/
def readFile? (cs : List Char) : Option Url := do
  let afterSlash? (cs : List Char) : Option (List Char) :=
    match cs.dropWhile isBreak with
    | c :: rest => if isSeparator true c then some rest else none
    | [] => none
  let (host, rest) ←
    match afterSlash? cs with
    | none => some (none, cs)
    | some rest =>
      match afterSlash? rest with
      | none => some (none, rest)
      | some rest => readFileHost? rest
  let pathText := rest.takeWhile fun c => !endsPath c
  let tail := rest.dropWhile fun c => !endsPath c
  let pathText := if host.isSome then (afterSlash? pathText).getD pathText else pathText
  let buffer := readPath true true pathText
  let authority : Authority := { host := if buffer.dropsHost then none else host }
  some ((⟨"file", some authority, buffer.trimmed, none, none⟩ : Url).withTail (unbroken tail))

/-- The text that is read: control characters and spaces at the ends are left out. -/
def trimmed (s : String) : List Char :=
  let isEdge (c : Char) : Bool := c.toNat ≤ 0x20
  ((s.toList.dropWhile isEdge).reverse.dropWhile isEdge).reverse

/-- The URL that a text stands for. -/
def parse? (s : String) : Option Url := do
  let (scheme, rest) ← readScheme? (trimmed s)
  if scheme = "file" then readFile? rest
  else
    let rest := unbroken rest
    if isSpecial scheme then readHierarchical? scheme (rest.dropWhile (isSeparator true))
    else readOther? scheme rest

end Url

end EditorSession
