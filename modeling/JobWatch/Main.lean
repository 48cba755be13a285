import JobWatch.Command.Program
import Std.Time.DateTime.Timestamp

/-!
The program: arguments, environment, clock, files and console around the command line. No
transport to a broker is linked in, so every broker is out of reach.
-/
namespace JobWatch.Command

/-- A detail as it stands behind a line. -/
def detailText : Detail → String
  | .value v => v.describe
  | .thrown t => t.message
  | .statuses m => Text.join ", " (m.values.map fun s => s.name ++ ": " ++ s.pendingJobs.text)
  | .activeQueues none => ""
  | .activeQueues (some m) =>
    Text.join ", " (m.toList.map fun (queue, workers) => queue ++ ": " ++ Text.join " " workers)

/-- Warnings and errors go to the second stream. -/
def printEvent : Event → IO Unit
  | .console channel line details => do
    let text := Text.join " " (line :: details.map detailText)
    match channel with
    | .warn => IO.eprintln text
    | .error => IO.eprintln text
    | _ => IO.println text
  | _ => pure ()

/-- What stands at a path. -/
def entryAt (path : String) : IO (List (String × Option String)) := do
  try
    return [(path, some (← IO.FS.readFile path))]
  catch e =>
    match e with
    | .inappropriateType .. => return [(path, none)]
    | _ => return []

/-- The paths that the arguments name. -/
def namedPaths (url : Option String) (argv : List String) : List String :=
  match parse url argv with
  | .ok a => a.specPath :: a.csvFile.toList
  | .error _ => []

/-- The folders on the way to a path, and the path itself. -/
def wayTo (path : String) : List String :=
  let parts := pathParts path
  (List.range (parts.length + 1)).map fun n => Text.join "/" (parts.take n)

/-- More checks than any run makes. -/
def checkLimit : Nat := 1000000

end JobWatch.Command

open JobWatch JobWatch.Command in
def main (argv : List String) : IO UInt32 := do
  let url ← IO.getEnv "QUEUEWATCH_REDIS_URL"
  let coloured ← (← IO.getStdout).isTty
  let time := (← Std.Time.Timestamp.now).toMillisecondsSinceUnixEpoch.val.toNat
  let paths := namedPaths url argv
  let home := resolve [] (pathParts (← IO.currentDir).toString)
  let files := Folder.within home (← (paths.flatMap wayTo).flatMapM entryAt)
  let setting : Setting Unit := ⟨Broker.unreachable, coloured, url, checkLimit⟩
  let start := Session.start time (Service.start Link.waiting ())
  let result := execute setting argv { start with files }
  result.events.forM printEvent
  for path in paths do
    let text := result.session.files.text? path
    if text ≠ files.text? path then
      text.forM fun text => IO.FS.writeFile path text
  match result.outcome with
  | .returned code => return code.toUInt32
  | _ => return Exit.failed.toUInt32
