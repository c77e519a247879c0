import EditorSession.Config
import EditorSession.Replay

/-! The command line.

`replay [FILE]` replays recorded messages against a host without a display. `Arguments.parse` reads
the arguments from left to right and stops at the first fault; `Program.run` says what a run prints
and logs, and how it ends. -/

namespace EditorSession

/-- What the arguments of `replay` ask for. -/
structure ReplayArguments where
  /-- The input; standard input if it is absent. -/
  file : Option String := none
  columns : UInt16 := 80
  rows : UInt16 := 24
deriving DecidableEq, Repr

inductive Arguments where
  | replay (arguments : ReplayArguments)
  | help
  | replayHelp
  | version
  /-- The arguments are wrong. -/
  | misuse
deriving DecidableEq, Repr

namespace Arguments

/-- An integer with an optional sign. -/
def readInt? (cs : List Char) : Option Int :=
  let (negative, digits) := match cs with
    | '-' :: ds => (true, ds)
    | '+' :: ds => (false, ds)
    | ds => (false, ds)
  if digits = [] ∨ !digits.all Char.isDigit then none
  else
    let n : Nat := digits.foldl (fun n c => 10 * n + (c.toNat - 48)) 0
    some (if negative then -n else n)

def cells? (cs : List Char) : Option UInt16 :=
  (readInt? cs).bind fun i => if 0 ≤ i ∧ i < 65536 then some (UInt16.ofNat i.toNat) else none

/-- The value after an option: attached by `=`, or the next argument. -/
def optionValue? (attached : Option (List Char)) (rest : List String) :
    Option (List Char × List String) :=
  match attached, rest with
  | some value, rest => some (value, rest)
  | none, next :: rest =>
    if next.toList.head? = some '-' ∧ next ≠ "-" then none else some (next.toList, rest)
  | none, [] => none

/-- The options of `replay` met so far. -/
structure Seen where
  file : Option String := none
  columns : Option UInt16 := none
  rows : Option UInt16 := none
deriving DecidableEq, Repr

namespace Seen

def toArguments (s : Seen) : ReplayArguments where
  file := s.file
  columns := s.columns.getD 80
  rows := s.rows.getD 24

/-- Takes an argument that is no option. -/
def addFile? (s : Seen) (arg : String) : Option Seen :=
  if arg = "" ∨ s.file.isSome then none else some { s with file := some arg }

/-- Takes an option with a value. -/
def addOption? (s : Seen) (name : List Char) (value : List Char) : Option Seen := do
  let n ← cells? value
  if name = "columns".toList ∧ s.columns.isNone then some { s with columns := some n }
  else if name = "rows".toList ∧ s.rows.isNone then some { s with rows := some n }
  else none

end Seen

/-- The arguments after `replay`; `fuel` bounds their number. -/
def parseReplay (s : Seen) : Nat → List String → Arguments
  | _, [] => .replay s.toArguments
  | 0, _ => .misuse
  | fuel + 1, arg :: rest =>
    match arg.toList with
    | ['-', '-'] =>
      match rest with
      | [] => .replay s.toArguments
      | [file] =>
        match s.addFile? file with
        | some s => .replay s.toArguments
        | none => .misuse
      | _ => .misuse
    | '-' :: '-' :: option =>
      if arg = "--help" then .replayHelp
      else
        let name := option.takeWhile (· ≠ '=')
        let attached := if '=' ∈ option then some (option.drop (name.length + 1)) else none
        match optionValue? attached rest with
        | none => .misuse
        | some (value, rest) =>
          match s.addOption? name value with
          | some s => parseReplay s fuel rest
          | none => .misuse
    | '-' :: c :: _ => if c = 'h' then .replayHelp else .misuse
    | _ =>
      match s.addFile? arg with
      | some s => parseReplay s fuel rest
      | none => .misuse

def parse : List String → Arguments
  | "replay" :: rest => parseReplay {} rest.length rest
  | ["help"] => .help
  | ["help", "replay"] => .replayHelp
  | arg :: _ =>
    match arg.toList with
    | '-' :: 'h' :: _ => .help
    | '-' :: 'V' :: _ => .version
    | _ => if arg = "--help" then .help else if arg = "--version" then .version else .misuse
  | [] => .misuse

end Arguments

namespace Program

def versionText : String := "editor-lsp-client 0.1.0\n"

/-- Lines of text, each with a line end. -/
def ofLines (lines : List String) : String := String.join (lines.map (· ++ "\n"))

def helpText : String :=
  ofLines
    ["Editor-side Language Server Protocol client coordinator",
      "",
      "Usage: editor-lsp-client <COMMAND>",
      "",
      "Commands:",
      "  replay  Replay newline-delimited JSON-RPC server messages against a headless editor",
      "  help    Print this message or the help of the given subcommand(s)",
      "",
      "Options:",
      "  -h, --help     Print help",
      "  -V, --version  Print version"]

def replayHelpText : String :=
  ofLines
    ["Replay newline-delimited JSON-RPC server messages against a headless editor",
      "",
      "Usage: editor-lsp-client replay [OPTIONS] [FILE]",
      "",
      "Arguments:",
      "  [FILE]  Input file; reads stdin when omitted",
      "",
      "Options:",
      "      --columns <COLUMNS>  Width of the headless viewport in cells [default: 80]",
      "      --rows <ROWS>        Height of the headless viewport in cells [default: 24]",
      "  -h, --help               Print help"]

/-- What a program is given besides its arguments. -/
structure Environment where
  dataHome : Option Path := none
  home : Option Path := none
  /-- The most verbose level that is logged; none is logged if it is absent. -/
  verbosity : Option Level := some .info
  input : List UInt8 := []

/-- How a run ends: its exit code, what it prints, what it adds to the log if it opens the log, and
the world that it leaves. -/
structure Outcome where
  exitCode : Nat
  output : String := ""
  log : Option (List Notice) := none
  world : World
deriving Repr

/-- The level that the name of a filter stands for: `off` stands for none. -/
def verbosityOf (name : String) : Option Level :=
  match String.ofList (name.toList.map Char.toLower) with
  | "off" => none
  | "error" => some .error
  | "warn" => some .warn
  | _ => some .info

def isLogged (e : Environment) (n : Notice) : Bool :=
  match e.verbosity with
  | none => false
  | some level => n.level.rank ≤ level.rank

/-- A notice as a line of the log. -/
def logLine (n : Notice) : String :=
  (Json.obj
    [("level", .str n.level.name),
      ("fields", .obj [("message", .str n.message)])]).compact ++ "\n"

/-- The file that a message asks for. -/
def fileOf? (m : Message) : Option Path :=
  if m.method = Client.showDocumentMethod then
    (Client.decodeLenient? {} SparseShowRequest.decode? m.params).bind fun p =>
      p.uri.bind Url.filePath?
  else if m.method = Client.publishMethod then
    (Client.decodeLenient? {} SparsePublication.decode? m.params).bind fun p =>
      p.uri.bind Url.filePath?
  else none

/-- The files that the messages of an input ask for. -/
def filesOf (input : List UInt8) : List Path :=
  (inputLines input).filterMap fun line => do
    let m ← Message.read? (trimBlank (← Utf8.decode? line))
    fileOf? m

/-- The bytes to replay: those of the file, or of standard input. -/
def input (w : World) (e : Environment) (a : ReplayArguments) : Except DiskError (List UInt8) :=
  match a.file with
  | some file => w.readBytes (.ofString file)
  | none => .ok e.input

/-- The exit code of a run that cannot open its log. -/
def noLogCode : Nat := 101

/-- Ends a run with the log at `file` open: those of the notices that are logged are added to it. -/
def finish (w : World) (e : Environment) (exitCode : Nat) (output : String)
    (notices : List Notice) : Outcome :=
  let file := Config.logFile e.dataHome e.home
  let logged := (Notice.loggingTo file :: notices).filter (isLogged e)
  match w.append file (Utf8.ofString (String.join (logged.map logLine))) with
  | .ok world => { exitCode, output, log := some logged, world }
  | .error _ => { exitCode := noLogCode, world := w }

/-- Replays the input, once the log is open. -/
def replay (w : World) (e : Environment) (a : ReplayArguments) : Outcome :=
  match input w e a with
  | .error _ => finish w e 1 "" []
  | .ok bytes =>
    let client : Client Unit := { host := some (Host.ofSize a.columns a.rows) }
    let r := client.replay w bytes
    let t := r.value.2
    let output := String.ofList t.output
    match t.fault with
    | some _ => finish w e 1 output r.notices
    | none =>
      finish w e 0 output
        (r.notices ++ [.replayed t.messages t.responses.length t.malformed])

/-- A run of the program. The log is opened before the input, so a run without a data directory
does nothing. -/
def run (w : World) (e : Environment) (args : List String) : Outcome :=
  match Arguments.parse args with
  | .misuse => { exitCode := 2, world := w }
  | .help => { exitCode := 0, output := helpText, world := w }
  | .replayHelp => { exitCode := 0, output := replayHelpText, world := w }
  | .version => { exitCode := 0, output := versionText, world := w }
  | .replay a =>
    match w.makeDirs (Config.dataDir e.dataHome e.home) with
    | .error _ => { exitCode := 1, world := w }
    | .ok w =>
      match w.append (Config.logFile e.dataHome e.home) [] with
      | .error _ => { exitCode := noLogCode, world := w }
      | .ok w => replay w e a

end Program

end EditorSession
