import EditorSession.Text.Numeral

/-! Tables over code points.

A table is a list of runs in increasing order. It is written as text, one word for each run:
`first`, `first-last` or `first-last/step` in hexadecimal, and after a colon the numbers that the
table gives, divided by commas. A set is a table that gives no numbers. -/

namespace EditorSession

/-- The code points from `first` to `last` at distances of `step`, and the numbers given there. -/
structure CodeRun where
  first : Nat
  last : Nat
  step : Nat := 1
  values : List Nat := []
deriving DecidableEq, Repr

namespace CodeRun

def covers (r : CodeRun) (code : Nat) : Bool :=
  r.first ≤ code && code ≤ r.last && (code - r.first) % r.step == 0

/-- The numbers given for a code point, where a single one grows along with the code point. -/
def valuesAt (r : CodeRun) (code : Nat) : List Nat :=
  match r.values with
  | [value] => [value + (code - r.first)]
  | values => values

/-- The text before the first `mark`, and the text after it. -/
def splitAt (mark : Char) (cs : List Char) : List Char × List Char :=
  (cs.takeWhile (· ≠ mark), (cs.dropWhile (· ≠ mark)).drop 1)

/-- The run that a word of a table stands for. -/
def read? (word : List Char) : Option CodeRun := do
  let (range, values) := splitAt ':' word
  let (bounds, step) := splitAt '/' range
  let (first, last) := splitAt '-' bounds
  let number := Numeral.value? 16
  let values ← if values = [] then some [] else (values.splitOn ',').mapM number
  some {
    first := ← number first
    last := ← number (if last = [] then first else last)
    step := ← if step = [] then some 1 else number step
    values }

end CodeRun

structure CodeTable where
  runs : Array CodeRun

namespace CodeTable

/-- The words of a text, divided by blanks and line ends. -/
def words (s : String) : List (List Char) :=
  (s.toList.splitOnP fun c => c == ' ' || c == '\n').filter (· ≠ [])

/-- The table that a text stands for. Words that stand for no run are left out. -/
def ofText (s : String) : CodeTable := ⟨((words s).filterMap CodeRun.read?).toArray⟩

/-- Among the runs from number `low` up to number `high`, the first one that begins after `code`,
or `high`. -/
def after (t : CodeTable) (code low high : Nat) : Nat :=
  if low < high then
    let middle := low + (high - low) / 2
    match t.runs[middle]? with
    | some run =>
      if code < run.first then after t code low middle else after t code (middle + 1) high
    | none => low
  else low
termination_by high - low
decreasing_by all_goals omega

/-- The run that covers a code point. -/
def find? (t : CodeTable) (code : Nat) : Option CodeRun :=
  match t.after code 0 t.runs.size with
  | 0 => none
  | i + 1 => t.runs[i]?.filter (·.covers code)

def contains (t : CodeTable) (c : Char) : Bool := (t.find? c.toNat).isSome

/-- The number given for a character. -/
def value? (t : CodeTable) (c : Char) : Option Nat :=
  (t.find? c.toNat).bind fun run => run.values.head?

end CodeTable

end EditorSession
