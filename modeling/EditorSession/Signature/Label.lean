import EditorSession.Protocol.SignatureHelp
import EditorSession.Text.Units

/-! The signature on display and its label in styled spans.

`SignatureHelp.selected?` picks the candidate with the most parameters, the first of equals.
`Signature.format?` writes it as `name(parameter, parameter)`, the active parameter in a style of its
own. -/

namespace EditorSession

/-- The role of a part of a label. -/
inductive SpanStyle where
  | neutral
  | punctuation
  | active
deriving DecidableEq, Repr

/-- The colours of a label, as words of alpha, red, green and blue. -/
structure Palette where
  neutral : UInt32 := 0xFFFFFFFF
  punctuation : UInt32 := 0xFF4FC3F7
  active : UInt32 := 0xFFFF6060
deriving DecidableEq, Repr

namespace SpanStyle

def color (p : Palette) : SpanStyle → UInt32
  | neutral => p.neutral
  | punctuation => p.punctuation
  | active => p.active

def name : SpanStyle → String
  | neutral => "Neutral"
  | punctuation => "Punctuation"
  | active => "Active"

end SpanStyle

structure Span where
  text : String
  style : SpanStyle
deriving DecidableEq, Repr

structure StyledLabel where
  spans : List Span := []
deriving DecidableEq, Repr, Inhabited

namespace StyledLabel

def text (l : StyledLabel) : String := String.join (l.spans.map Span.text)

/-- The text of the active parameter. -/
def activeText? (l : StyledLabel) : Option String :=
  (l.spans.find? fun s => s.style == .active).map Span.text

end StyledLabel

namespace SignatureHelp

/-- The better one of `best` and a later candidate. -/
def better (best : Option Signature) (s : Signature) : Option Signature :=
  if (best.map fun b => b.parameterList.length).getD 0 < s.parameterList.length then some s else best

/-- The first candidate with the most parameters; one without parameters is never picked. -/
def selected? (h : SignatureHelp) : Option Signature := h.signatures.foldl better none

end SignatureHelp

namespace Signature

/-- The label up to its first parenthesis, if it has one. -/
def name? (s : Signature) : Option String :=
  if '(' ∈ s.label.toList then some (String.ofList (s.label.toList.takeWhile (· ≠ '('))) else none

/-- The text of a parameter. Columns have to lie between characters of the label. -/
def parameterText? (s : Signature) : ParameterLabel → Option String
  | .text t => some t
  | .columns start stop => do
    let a ← byteOffset? s.label.toList start
    let b ← byteOffset? s.label.toList stop
    (slice? s.label.toList a b).map String.ofList

def parameterSpan (active : Option UInt32) (index : Nat) (text : String) : Span :=
  ⟨text, if active.map UInt32.toNat = some index then .active else .neutral⟩

/-- The spans of parameters, of which the first has the given index. A comma and a space stand
before each but the one with index zero. -/
def parameterSpans? (s : Signature) (active : Option UInt32) : Nat → List Parameter → Option (List Span)
  | _, [] => some []
  | index, p :: rest => do
    let text ← s.parameterText? p.label
    let separator : List Span := if index = 0 then [] else [⟨",", .punctuation⟩, ⟨" ", .neutral⟩]
    let later ← parameterSpans? s active (index + 1) rest
    some (separator ++ parameterSpan active index text :: later)

/-- The label with the parameter at index `active` highlighted. There is none if the label has no
parenthesis, or the columns of a parameter do not fit it. -/
def format? (s : Signature) (active : Option UInt32) : Option StyledLabel := do
  let name ← s.name?
  let spans ← s.parameterSpans? active 0 s.parameterList
  some ⟨⟨name, .neutral⟩ :: ⟨"(", .punctuation⟩ :: spans ++ [⟨")", .punctuation⟩]⟩

end Signature

/-- The signature help on display. -/
structure ShownSignature where
  candidates : List Signature
  activeParameter : Option UInt32
  label : StyledLabel
deriving DecidableEq, Repr

end EditorSession
