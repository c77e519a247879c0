import EditorSession.Dispatch
import EditorSession.Text.Blank

/-! Replaying recorded messages, one on each line.

A line that is blank is passed over, and one that is no message is counted as malformed. A line that
is not UTF-8 ends the replay; what came before it stands. `flatten_inputLines` says that cutting an
input into lines loses nothing, and transcripts of consecutive lines are put together by `++`. -/

namespace EditorSession

/-- The lines of an input, each with its line end if it has one. -/
def inputLines : List UInt8 → List (List UInt8)
  | [] => []
  | b :: bs =>
    if b = 0x0A then [b] :: inputLines bs
    else match inputLines bs with
      | [] => [[b]]
      | line :: rest => (b :: line) :: rest

theorem flatten_inputLines (bs : List UInt8) : (inputLines bs).flatten = bs := by
  induction bs with
  | nil => rfl
  | cons b bs ih =>
    rw [inputLines]
    split
    · simp [ih]
    · split
      · next h => simpa [h] using ih
      · next h => simpa [h] using ih

/-- What lines gave: the number of messages and of malformed lines, the responses in order, and the
fault that ended the replay. -/
structure Transcript where
  messages : Nat := 0
  malformed : Nat := 0
  responses : List Response := []
  fault : Option Utf8.Fault := none
deriving DecidableEq, Repr

namespace Transcript

/-- What the lines of `a` and then those of `b` gave. -/
def append (a b : Transcript) : Transcript where
  messages := a.messages + b.messages
  malformed := a.malformed + b.malformed
  responses := a.responses ++ b.responses
  fault := a.fault.or b.fault

instance : Append Transcript := ⟨append⟩

/-- The text that is written: each response on a line of its own. -/
def output (t : Transcript) : List Char := t.responses.flatMap fun r => r.line ++ ['\n']

theorem append_eq (a b : Transcript) :
    a ++ b = ⟨a.messages + b.messages, a.malformed + b.malformed, a.responses ++ b.responses,
      a.fault.or b.fault⟩ := rfl

@[simp] theorem empty_append (t : Transcript) : {} ++ t = t := by simp [append_eq]

@[simp] theorem append_empty (t : Transcript) : t ++ {} = t := by simp [append_eq]

theorem append_assoc (a b c : Transcript) : a ++ b ++ c = a ++ (b ++ c) := by
  simp [append_eq, Nat.add_assoc, Option.or_assoc]

@[simp] theorem output_append (a b : Transcript) : (a ++ b).output = a.output ++ b.output :=
  List.flatMap_append

def ofMessage (response : Option Response) : Transcript :=
  { messages := 1, responses := response.toList }

def ofMalformed : Transcript := { malformed := 1 }

end Transcript

namespace Client

variable {Server : Type}

/-- Replays one line of text. -/
def replayLine (c : Client Server) (w : World) (line : List Char) :
    Logged (Client Server × Transcript) :=
  match trimBlank line with
  | [] => pure (c, {})
  | text =>
    match Message.read? text with
    | none => .withNotice .malformedMessage (c, .ofMalformed)
    | some m => do
      let (c, response) ← c.dispatch w m
      pure (c, .ofMessage response)

/-- Replays lines up to the first one that is not UTF-8. -/
def replayLines (c : Client Server) (w : World) :
    List (List UInt8) → Logged (Client Server × Transcript)
  | [] => pure (c, {})
  | line :: rest =>
    match Utf8.decode? line with
    | none => pure (c, { fault := Utf8.fault? line })
    | some text => do
      let (c, first) ← c.replayLine w text
      let (c, later) ← replayLines c w rest
      pure (c, first ++ later)

/-- Replays an input. -/
def replay (c : Client Server) (w : World) (input : List UInt8) :
    Logged (Client Server × Transcript) :=
  c.replayLines w (inputLines input)

end Client

end EditorSession
