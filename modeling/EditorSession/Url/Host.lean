import EditorSession.Domain.Ascii
import EditorSession.Url.Percent

/-! Hosts of URLs.

A host between brackets is an IPv6 address. In a URL with a special scheme any other host is decoded,
mapped to lower-case ASCII labels, and read as an IPv4 address if its last label is a number. The
host of another URL is kept as it is written. -/

namespace EditorSession

inductive UrlHost where
  | domain (name : String)
  | ipv4 (address : Nat)
  | ipv6 (pieces : List Nat)
deriving DecidableEq, Repr

namespace UrlHost

/-! ### IPv4 -/

/-- A part of an IPv4 address: decimal, octal after `0`, hexadecimal after `0x`. -/
def ipv4Number? : List Char → Option Nat
  | [] => none
  | ['0'] => some 0
  | '0' :: c :: rest =>
    if c = 'x' ∨ c = 'X' then Numeral.value? 16 rest else Numeral.value? 8 (c :: rest)
  | cs => Numeral.value? 10 cs

/-- The labels of a domain less an empty one at the end. -/
def labels (cs : List Char) : List (List Char) :=
  let ls := cs.splitOn '.'
  if ls.getLast? = some [] ∧ 1 < ls.length then ls.dropLast else ls

def endsInNumber (cs : List Char) : Bool :=
  match (labels cs).getLast? with
  | some last => (last ≠ [] && last.all Char.isDigit) || (ipv4Number? last).isSome
  | none => false

/-- The address with the given parts, among `size` addresses. Each part but the last fills one byte,
and the last one fills the bytes that are left. -/
def ofParts? : Nat → List Nat → Option Nat
  | _, [] => none
  | size, [last] => if last < size then some last else none
  | size, part :: rest =>
    if part < 256 ∧ 256 < size then (ofParts? (size / 256) rest).map (part * (size / 256) + ·)
    else none

def ipv4? (cs : List Char) : Option Nat := (labels cs).mapM ipv4Number? >>= ofParts? UInt32.size

def writeIpv4 (address : Nat) : String :=
  s!"{address / 16777216}.{address / 65536 % 256}.{address / 256 % 256}.{address % 256}"

/-! ### IPv6 -/

/-- A piece of at most four hexadecimal digits. -/
def ipv6Piece? (cs : List Char) : Option Nat :=
  if cs = [] ∨ 4 < cs.length then none else Numeral.value? 16 cs

/-- A byte of an embedded IPv4 address: decimal, without a zero in front. -/
def byte? (cs : List Char) : Option Nat :=
  match cs with
  | [] => none
  | '0' :: _ :: _ => none
  | cs => if 3 < cs.length then none else (Numeral.value? 10 cs).filter (· < 256)

/-- The pieces of a text without `::`; an IPv4 address may stand at the end. -/
def ipv6Pieces? (cs : List Char) (ipv4AtEnd : Bool) : Option (List Nat) :=
  if cs = [] then some []
  else
    let parts := cs.splitOn ':'
    match parts.getLast? with
    | none => none
    | some last =>
      if ipv4AtEnd && '.' ∈ last then do
        let front ← parts.dropLast.mapM ipv6Piece?
        match ← (last.splitOn '.').mapM byte? with
        | [a, b, c, d] => some (front ++ [a * 256 + b, c * 256 + d])
        | _ => none
      else parts.mapM ipv6Piece?

/-- The text before the first `::` and the text after it. -/
def splitDoubleColon? : List Char → Option (List Char × List Char)
  | ':' :: ':' :: rest => some ([], rest)
  | c :: rest => (splitDoubleColon? rest).map fun (a, b) => (c :: a, b)
  | [] => none

/-- The eight pieces of an address; `::` stands for one or more zeros. -/
def ipv6? (cs : List Char) : Option (List Nat) := do
  match splitDoubleColon? cs with
  | none =>
    let pieces ← ipv6Pieces? cs true
    if pieces.length = 8 then some pieces else none
  | some (a, b) =>
    let front ← ipv6Pieces? a false
    let back ← ipv6Pieces? b true
    if 8 ≤ front.length + back.length then none
    else some (front ++ List.replicate (8 - front.length - back.length) 0 ++ back)

/-- The number of zeros that a list begins with. -/
def zeros (pieces : List Nat) : Nat := (pieces.takeWhile (· = 0)).length

/-- Where the first of the longest runs of zeros begins, and how long it is. -/
def longestZeros : Nat → List Nat → Nat × Nat
  | _, [] => (0, 0)
  | i, piece :: rest =>
    let here := zeros (piece :: rest)
    let later := longestZeros (i + 1) rest
    if 0 < here ∧ later.2 ≤ here then (i, here) else later

def writePieces (pieces : List Nat) : List Char :=
  [':'].intercalate (pieces.map (Nat.toDigits 16))

def writeIpv6 (pieces : List Nat) : String :=
  let (start, length) := longestZeros 0 pieces
  String.ofList <| '[' ::
    (if 2 ≤ length then
      writePieces (pieces.take start) ++ ':' :: ':' :: writePieces (pieces.drop (start + length))
    else writePieces pieces) ++ [']']

/-! ### Domains -/

/-- Characters that no host may hold. -/
def isForbidden (c : Char) : Bool :=
  c ∈ ['\x00', '\t', '\n', '\r', ' ', '#', '/', ':', '<', '>', '?', '@', '[', '\\', ']', '^', '|']

/-- Characters that no domain may hold. -/
def isForbiddenInDomain (c : Char) : Bool := isForbidden c || Percent.isControl c || c == '%'

/-- The IPv6 host between brackets. -/
def bracketed? (cs : List Char) : Option UrlHost :=
  if cs.getLast? = some ']' then (ipv6? cs.dropLast).map ipv6 else none

/-- The host of a URL with a special scheme. -/
def parse? (cs : List Char) : Option UrlHost :=
  match cs with
  | '[' :: rest => bracketed? rest
  | cs => do
    let decoded ← Utf8.decode? (Percent.decode (Utf8.encode cs))
    let domain ← Domain.ascii? isForbiddenInDomain decoded
    if domain = [] then none
    else if endsInNumber domain then (ipv4? domain).map ipv4
    else some (.domain (String.ofList domain))

/-- The host of a URL with any other scheme. -/
def parseVerbatim? (cs : List Char) : Option UrlHost :=
  match cs with
  | '[' :: rest => bracketed? rest
  | cs =>
    if cs.any isForbidden then none
    else some (.domain (String.ofList (Percent.encode Percent.isControl cs)))

def toString : UrlHost → String
  | domain name => name
  | ipv4 address => writeIpv4 address
  | ipv6 pieces => writeIpv6 pieces

end UrlHost

end EditorSession
