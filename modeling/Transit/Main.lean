import Std.Time.DateTime.Timestamp
import Transit.CommandLine.Run
import Transit.Hafas.Replay
/-! The command line program. Answers of the backend are taken from the standard input, one JSON
record a line; the addresses that they answer to are listed on the error output. -/
namespace Transit.Program

open CommandLine

def environment : IO Environment := do
  return { config := ← IO.getEnv "TRANSIT_CONFIG", baseUrl := ← IO.getEnv "TRANSIT_BASE_URL" }

def now : IO Instant := do
  let time ← Std.Time.Timestamp.now
  let nanos := time.toNanosecondsSinceUnixEpoch.val
  return (Instant.of? (nanos / 1000000000) (nanos % 1000000000).toNat).getD Instant.least

/-- The text of a file, if it can be read. -/
def readText? (path : String) : IO (Option String) := do
  try return some (← IO.FS.readFile path)
  catch _ => return none

/-- The file that the settings are in, if one is named. -/
def configFile (env : Environment) (args : List String) : IO (Option String) := do
  match read env args with
  | .run { config := some path, .. } => readText? path
  | _ => return none

/-- Nothing is read unless there is something to run. -/
def records (env : Environment) (args : List String) : IO (List String) := do
  match read env args with
  | .run _ =>
    let text ← (← IO.getStdin).readToEnd
    return text.splitOn "\n"
  | _ => return []

def report (exit : Exit) (requests : List Url) : IO UInt32 := do
  for url in requests do IO.eprintln url.text
  match exit.complaint with
  | some m => IO.eprintln ("Error: " ++ m)
  | none => pure ()
  IO.print exit.output
  return UInt32.ofNat exit.code

end Transit.Program

open Transit Transit.Program in
def main (args : List String) : IO UInt32 := do
  let env ← environment
  let file ← configFile env args
  let world : CommandLine.World Hafas.Replay :=
    { file := fun _ => file, now := ← now, backend := Hafas.Replay.backend }
  let replay := Hafas.Replay.ofLines (← records env args)
  let (exit, replay) := (CommandLine.execute world env args).run replay
  report exit replay.requests.reverse
