import EditorSession.Text.Units

/-! Text addressed by line and column.

Lines end in `\n` or `\r\n` and columns count UTF-16 units, both from zero. `Content.lineStarts` is
an index of the byte offsets at which lines begin, and `Content.lineBounds` reads off it between
which offsets a line stands without its terminator. `Content.line` cuts out a line,
`Content.offset` turns a position into a byte offset, and `Content.sub` is the text between two
positions. -/

namespace EditorSession

structure Position where
  line : UInt32 := 0
  character : UInt32 := 0
deriving DecidableEq, Repr, Inhabited

namespace Position

/-- Reading order: by line, then by character. -/
def precedes (p q : Position) : Bool :=
  p.line < q.line || (p.line == q.line && p.character < q.character)

theorem precedes_iff {p q : Position} :
    p.precedes q = true ↔ p.line < q.line ∨ p.line = q.line ∧ p.character < q.character := by
  simp [precedes]

/-- The text of a position in an error message. -/
def describe (p : Position) : String :=
  s!"Position \x7b line: {p.line}, character: {p.character} \x7d"

end Position

structure Range where
  start : Position := {}
  stop : Position := {}
deriving DecidableEq, Repr, Inhabited

/-- Why a position or a range has no place in a text. -/
inductive TextError where
  | lineOutOfRange (line : UInt32) (lineCount : Nat)
  | columnOutOfRange (line column : UInt32)
  | reversedRange (start stop : Position)
  /-- The byte offsets of a range do not cut the text between characters. -/
  | unaligned (start stop : Nat)
deriving DecidableEq, Repr

namespace TextError

def message : TextError → String
  | lineOutOfRange line count => s!"line {line} is out of range (content has {count} lines)"
  | columnOutOfRange line column => s!"column {column} is out of range on line {line}"
  | reversedRange start stop => s!"range end {stop.describe} precedes start {start.describe}"
  | unaligned start stop => s!"bytes {start} to {stop} do not begin and end at characters"

end TextError

/-- A snapshot of a text buffer. -/
structure Content where
  text : String
deriving DecidableEq, Repr, Inhabited

namespace Content

def chars (c : Content) : List Char := c.text.toList

/-- The byte offset at which each line begins: zero, and the one behind each line feed. -/
def lineStarts (c : Content) : List Nat := 0 :: (byteOffsetsOf '\n' c.chars 0).map (· + 1)

def lineCount (c : Content) : Nat := c.lineStarts.length

/-- The text between two byte offsets, if both are between characters. -/
def slice (c : Content) (start stop : Nat) : Except TextError (List Char) :=
  match slice? c.chars start stop with
  | some part => .ok part
  | none => .error (.unaligned start stop)

/-- The byte offsets between which a line stands without its terminator. The line feed is one byte
before the next line, and a `\r` in front of it is one byte more. -/
def lineBounds (c : Content) (line : UInt32) : Except TextError (Nat × Nat) :=
  match c.lineStarts[line.toNat]? with
  | none => .error (.lineOutOfRange line c.lineCount)
  | some start => do
    let stop :=
      match c.lineStarts[line.toNat + 1]? with
      | some next => next - 1
      | none => byteLength c.chars
    let part ← c.slice start stop
    .ok (start, if part.getLast? = some '\r' then stop - 1 else stop)

def lineChars (c : Content) (line : UInt32) : Except TextError (List Char) := do
  let (start, stop) ← c.lineBounds line
  c.slice start stop

/-- The text of a line without its terminator. -/
def line (c : Content) (line : UInt32) : Except TextError String :=
  (c.lineChars line).map String.ofList

/-- The byte offset of a position. -/
def offset (c : Content) (p : Position) : Except TextError Nat := do
  let (start, stop) ← c.lineBounds p.line
  let line ← c.slice start stop
  match byteOffset? line p.character with
  | some offset => .ok (start + offset)
  | none => .error (.columnOutOfRange p.line p.character)

/-- The text between two positions. An end before the start is found first, then a start and
last an end that is out of range. -/
def sub (c : Content) (start stop : Position) : Except TextError String :=
  if stop.precedes start then .error (.reversedRange start stop)
  else do
    let a ← c.offset start
    let b ← c.offset stop
    let part ← c.slice a b
    .ok (String.ofList part)

end Content

end EditorSession
