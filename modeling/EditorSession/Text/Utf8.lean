/-! UTF-8, read one byte at a time.

`Utf8.pieces` cuts any byte string into characters and runs of bytes that no character can
begin with or go on with. The strict reader `Utf8.decode?`, the lossy reader `Utf8.lossy` and
the first fault `Utf8.fault?` are all read off that list. -/

namespace EditorSession
namespace Utf8

/-- A sequence that has begun: its bytes so far, the bits they carry, the number of bytes still
owed, and the range of the next one. -/
structure Pending where
  seen : List UInt8
  value : Nat
  owed : Nat
  low : UInt8 := 0x80
  high : UInt8 := 0xBF
deriving DecidableEq, Repr

/-- A stretch of a byte string: a character, bytes that the next byte proved wrong, or a
sequence that the end of the input left unfinished. -/
inductive Piece where
  | char (c : Char)
  | broken (bytes : List UInt8)
  | cut (bytes : List UInt8)
deriving DecidableEq, Repr

/-- What a byte does between characters: it is a character, opens a longer one, or is wrong. -/
def first (b : UInt8) : List Piece × Option Pending :=
  let v := b.toNat
  if v < 0x80 then ([.char (Char.ofNat v)], none)
  else if v < 0xC2 then ([.broken [b]], none)
  else if v < 0xE0 then ([], some { seen := [b], value := v - 0xC0, owed := 1 })
  else if v = 0xE0 then ([], some { seen := [b], value := 0, owed := 2, low := 0xA0 })
  else if v = 0xED then ([], some { seen := [b], value := v - 0xE0, owed := 2, high := 0x9F })
  else if v < 0xF0 then ([], some { seen := [b], value := v - 0xE0, owed := 2 })
  else if v = 0xF0 then ([], some { seen := [b], value := 0, owed := 3, low := 0x90 })
  else if v < 0xF4 then ([], some { seen := [b], value := v - 0xF0, owed := 3 })
  else if v = 0xF4 then ([], some { seen := [b], value := v - 0xF0, owed := 3, high := 0x8F })
  else ([.broken [b]], none)

namespace Pending

def accepts (p : Pending) (b : UInt8) : Bool := p.low ≤ b && b ≤ p.high

/-- The sequence with one more byte; the last byte owed completes a character. -/
def push (p : Pending) (b : UInt8) : List Piece × Option Pending :=
  let value := p.value * 64 + (b.toNat - 0x80)
  if p.owed ≤ 1 then ([.char (Char.ofNat value)], none)
  else ([], some { seen := p.seen ++ [b], value, owed := p.owed - 1 })

end Pending

/-- One byte after what is pending. A byte that the pending sequence refuses is looked at again
as a first byte. -/
def step : Option Pending → UInt8 → List Piece × Option Pending
  | none, b => first b
  | some p, b =>
    if p.accepts b then p.push b
    else (.broken p.seen :: (first b).1, (first b).2)

def scan : Option Pending → List UInt8 → List Piece
  | none, [] => []
  | some p, [] => [.cut p.seen]
  | pending, b :: bs => (step pending b).1 ++ scan (step pending b).2 bs

def pieces (bytes : List UInt8) : List Piece := scan none bytes

def encode (cs : List Char) : List UInt8 := cs.flatMap String.utf8EncodeChar

namespace Piece

def char? : Piece → Option Char
  | char c => some c
  | _ => none

/-- The bytes that the piece was read from. -/
def bytes : Piece → List UInt8
  | char c => String.utf8EncodeChar c
  | broken bs | cut bs => bs

/-- The character itself, or U+FFFD in place of wrong bytes. -/
def shown : Piece → Char
  | char c => c
  | broken _ | cut _ => '\uFFFD'

end Piece

/-- The text whose encoding `bytes` is, if there is one. -/
def decode? (bytes : List UInt8) : Option (List Char) := (pieces bytes).mapM Piece.char?

/-- The text with U+FFFD for every run of wrong bytes. -/
def lossy (bytes : List UInt8) : List Char := (pieces bytes).map Piece.shown

/-- Why bytes are not UTF-8: `index` counts the bytes before the first wrong run. -/
inductive Fault where
  | invalid (length index : Nat)
  | incomplete (index : Nat)
deriving DecidableEq, Repr

namespace Fault

def message : Fault → String
  | invalid length index => s!"invalid utf-8 sequence of {length} bytes from index {index}"
  | incomplete index => s!"incomplete utf-8 byte sequence from index {index}"

/-- The first fault among the pieces that follow `index` bytes of text. -/
def find? (index : Nat) : List Piece → Option Fault
  | [] => none
  | .char c :: rest => find? (index + c.utf8Size) rest
  | .broken bs :: _ => some (invalid bs.length index)
  | .cut _ :: _ => some (incomplete index)

end Fault

def fault? (bytes : List UInt8) : Option Fault := Fault.find? 0 (pieces bytes)

end Utf8

/-- The bytes of a string. -/
def Utf8.ofString (s : String) : List UInt8 := Utf8.encode s.toList

/-- The string whose bytes these are, if they are UTF-8. -/
def Utf8.toString? (bytes : List UInt8) : Option String := (Utf8.decode? bytes).map String.ofList

/-- The string with U+FFFD for every run of wrong bytes. -/
def Utf8.toStringLossy (bytes : List UInt8) : String := String.ofList (Utf8.lossy bytes)

end EditorSession
