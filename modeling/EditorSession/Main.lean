import EditorSession.CommandLine

/-! The program. It gathers from the system what a run needs, the files that the messages name
included, and prints and logs what the run gives. -/

namespace EditorSession
namespace Program

/-- The bytes of a file, if it can be read. -/
def readFile? (file : Path) : IO (Option (List UInt8)) := do
  match Utf8.toString? file.bytes with
  | none => return none
  | some name =>
    try return some (← IO.FS.readBinFile name).toList
    catch _ => return none

/-- The world with those of the given files that can be read. -/
def gather (w : World) : List Path → IO World
  | [] => return w
  | file :: rest => do
    match ← readFile? file with
    | some bytes => gather ((w.write file bytes).toOption.getD w) rest
    | none => gather w rest

/-- All bytes of a stream, after those in `acc`. -/
partial def readAll (stream : IO.FS.Stream) (acc : ByteArray) : IO ByteArray := do
  let chunk ← stream.read 65536
  if chunk.isEmpty then return acc else readAll stream (acc ++ chunk)

def environment : IO Environment := do
  let filter ← IO.getEnv "RUST_LOG"
  return {
    dataHome := (← IO.getEnv "XDG_DATA_HOME").map Path.ofString
    home := ((← IO.getEnv "HOME").filter (· ≠ "")).map Path.ofString
    verbosity := (filter.map verbosityOf).getD (some .info) }

/-- Replays the input of `a`, once the log is open. -/
def execute (e : Environment) (args : List String) (a : ReplayArguments) : IO UInt32 := do
  let cwd := Path.ofString (← IO.currentDir).toString
  let here : World := ⟨cwd, {}⟩
  let w := (here.makeDirs cwd).toOption.getD here
  try IO.FS.createDirAll (Config.dataDir e.dataHome e.home).display
  catch cause =>
    IO.eprintln s!"Failed to create data directory: {cause}"
    return 1
  let log ←
    try IO.FS.Handle.mk (Config.logFile e.dataHome e.home).display .append
    catch _ => return UInt32.ofNat noLogCode
  let (w, input) ← match a.file with
    | some file => do
      let w ← gather w [.ofString file]
      pure (w, ((w.readBytes (.ofString file)).toOption).getD [])
    | none => do
      pure (w, (← readAll (← IO.getStdin) .empty).toList)
  let w ← gather w (filesOf input)
  let outcome := run w { e with input } args
  IO.print outcome.output
  log.putStr (String.join ((outcome.log.getD []).map logLine))
  return UInt32.ofNat outcome.exitCode

end Program
end EditorSession

open EditorSession in
def main (args : List String) : IO UInt32 := do
  let e ← Program.environment
  match Arguments.parse args with
  | .replay a => Program.execute e args a
  | _ =>
    let outcome := Program.run ⟨.ofString "/", {}⟩ e args
    IO.print outcome.output
    if outcome.exitCode ≠ 0 then IO.eprint Program.helpText
    return UInt32.ofNat outcome.exitCode
