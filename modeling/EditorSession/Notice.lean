import EditorSession.Decimal.Layout
import EditorSession.Json.Printer
import EditorSession.Search.Result
import EditorSession.Signature.Popup

/-! Log records, and values that come with log records.

A `Notice` says what happened and `Notice.message` words it. A `Logged` value is a value together
with the notices that computing it gave, in order. -/

namespace EditorSession

inductive Level where
  | error
  | warn
  | info
deriving DecidableEq, Repr

namespace Level

def name : Level → String
  | error => "ERROR"
  | warn => "WARN"
  | info => "INFO"

/-- A higher rank is less severe. -/
def rank : Level → Nat
  | error => 1
  | warn => 2
  | info => 3

end Level

/-- An error with the contexts in which it was passed on, the innermost first. -/
structure Failure where
  root : String
  contexts : List String := []
deriving DecidableEq, Repr

namespace Failure

/-- The messages from the outermost one to the root. -/
def chain (f : Failure) : List String := (f.root :: f.contexts).reverse

def outermost (f : Failure) : String := (f.contexts.getLast?).getD f.root

def full (f : Failure) : String := ": ".intercalate f.chain

end Failure

inductive Notice where
  | serverConnected
  | serverDisconnected
  | requestingStart
  | noStarter
  | progress (message : String)
  | connectionFailed (failure : Failure)
  | telemetry (event : Json)
  | showingDiagnostics (files : Nat)
  | editorDiagnostics (file : Path) (count : Nat)
  | editorHighlights (file : Path) (count : Nat)
  | malformedLabel (label : String)
  | signatureAt (position : Point)
  | locationFailed (index : Nat) (error : SearchError)
  | showingResults (results files : Nat)
  | openingDocument (file : Path)
  | opened (file : Path)
  | openFailed (file : Path) (cause : DiskError)
  | malformedMessage
  | invalidParams (method : String)
  | droppedNotification (method : String)
  | loggingTo (file : Path)
  | replayed (messages responses malformed : Nat)
deriving Repr

/-- Numbers in log records are positional and as short as they can be. -/
def displayLayout : NumberLayout where
  positional := none
  pointZero := false
  plus := false
  infinite := "inf"
  nan := "NaN"

def displayFloat (x : Float32) : String :=
  String.ofList (displayLayout.write (FloatFormat.single.read x.toBits.toNat))

namespace Notice

def level : Notice → Level
  | connectionFailed _ | locationFailed .. => .error
  | malformedLabel _ | openFailed .. | malformedMessage | invalidParams _
  | droppedNotification _ => .warn
  | _ => .info

def message : Notice → String
  | serverConnected => "Language server connected"
  | serverDisconnected => "Language server disconnected"
  | requestingStart => "Requesting language server start"
  | noStarter => "No server starter registered, ignoring start request"
  | progress message => s!"Connection progress: {message}"
  | connectionFailed failure => s!"Connection failed: {failure.full}"
  | telemetry event => s!"telemetryEvent: {event.compact}"
  | showingDiagnostics files => s!"Showing diagnostics for {files} files"
  | editorDiagnostics file count => s!"{file.quoted}: {count} diagnostics"
  | editorHighlights file count => s!"{file.quoted}: {count} highlight tokens"
  | malformedLabel label => s!"Malformed signature label: {quote label}"
  | signatureAt p => s!"Signature help at ({displayFloat p.x}, {displayFloat p.y})"
  | locationFailed index error => s!"Failed to process location #{index}: {error.fullMessage}"
  | showingResults results files => s!"Showing {results} search results in {files} files"
  | openingDocument file => s!"Opening {file.quoted} for showDocument"
  | opened file => s!"Opened {file.quoted}"
  | openFailed file cause => s!"Failed to open {file.quoted}: {cause.message}"
  | malformedMessage => "Skipping malformed message: "
  | invalidParams method => s!"invalid params for {method}"
  | droppedNotification method => s!"Dropping notification: invalid params for {method}"
  | loggingTo file => s!"Logging to {file.quoted}"
  | replayed messages responses malformed =>
    s!"Replayed {messages} messages ({responses} responses, {malformed} malformed)"

end Notice

/-- A value and the notices that computing it gave. -/
structure Logged (α : Type) where
  value : α
  notices : List Notice := []

namespace Logged

variable {α β : Type}

def map (f : α → β) (l : Logged α) : Logged β := ⟨f l.value, l.notices⟩

def bind (l : Logged α) (f : α → Logged β) : Logged β :=
  let r := f l.value
  ⟨r.value, l.notices ++ r.notices⟩

instance : Monad Logged where
  pure a := ⟨a, []⟩
  bind := bind

@[simp] theorem value_pure (a : α) : (pure a : Logged α).value = a := rfl

@[simp] theorem notices_pure (a : α) : (pure a : Logged α).notices = [] := rfl

@[simp] theorem value_bind (l : Logged α) (f : α → Logged β) :
    (l >>= f).value = (f l.value).value := rfl

@[simp] theorem notices_bind (l : Logged α) (f : α → Logged β) :
    (l >>= f).notices = l.notices ++ (f l.value).notices := rfl

/-- A value with one notice. -/
def withNotice (n : Notice) (a : α) : Logged α := ⟨a, [n]⟩

@[simp] theorem value_withNotice (n : Notice) (a : α) : (withNotice n a).value = a := rfl

@[simp] theorem notices_withNotice (n : Notice) (a : α) : (withNotice n a).notices = [n] := rfl

@[simp] theorem value_map (f : α → β) (l : Logged α) : (l.map f).value = f l.value := rfl

@[simp] theorem notices_map (f : α → β) (l : Logged α) : (l.map f).notices = l.notices := rfl

end Logged

end EditorSession
