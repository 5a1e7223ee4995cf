import SymbolOutline.CommandLine.Run

/-!
# The program

Reads the files a run may ask for, runs and prints.
-/

namespace SymbolOutline.Program

open CommandLine

/-- The reason the system gives for not reading a file. -/
def refusal : IO.Error → String
  | .permissionDenied _ code details => s!"{details} (os error {code})"
  | e => toString e

/-- What a path leads to now. -/
def stored? (path : String) : IO (Option Stored) := do
  match ← (IO.FS.realPath path).toBaseIO with
  | .error _ => return none
  | .ok found =>
    if ← found.isDir then return some .directory
    else
      match ← (IO.FS.readBinFile found).toBaseIO with
      | .ok bytes => return some (.file bytes)
      | .error e => return some (.unreadable (refusal e))

/-- What the given paths lead to now. -/
def snapshot (paths : List String) : IO Files := do
  let found ← paths.mapM fun path => return (path, ← stored? path)
  return fun path => (found.lookup path).join

/-- The paths a request may read. -/
def pathsOf : Request → List String
  | .kinds _ => []
  | .outline request =>
    (if isStdin request.input then [] else [request.input]) ++
      match request.config with
      | some path => [path]
      | none => Settings.candidates.map (Settings.inDirectory ".")

partial def readAll (stream : IO.FS.Stream) (read : ByteArray) : IO ByteArray := do
  let more ← stream.read 65536
  if more.isEmpty then return read else readAll stream (read ++ more)

def surroundings (arguments : List String) : IO Surroundings := do
  match Request.ofArguments arguments with
  | .error _ => return ⟨fun _ => none, .empty⟩
  | .ok request =>
    let files ← snapshot (pathsOf request)
    let stdin ← match request with
      | .outline request =>
        if isStdin request.input then readAll (← IO.getStdin) .empty else pure .empty
      | .kinds _ => pure .empty
    return ⟨files, stdin⟩

end SymbolOutline.Program

open SymbolOutline in
def main (arguments : List String) : IO UInt32 := do
  let (outcome, log) := CommandLine.run (← Program.surroundings arguments) arguments
  for event in log do
    if event.level = .warn then IO.eprintln event.message
  IO.print outcome.stdout
  IO.eprint outcome.stderr
  return outcome.exitCode
