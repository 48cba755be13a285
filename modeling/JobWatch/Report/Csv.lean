import JobWatch.Calendar
import JobWatch.Run.Basic

/-!
A table of readings in a file: a row for each reading with the backlog and the consumers of
every queue, and a header made of the queues of the first one.
-/
namespace JobWatch.Report

/-- The header for the queues of a reading. -/
def csvHeader (queues : List QueueStatus) : String :=
  "# time" ++ String.join (queues.map fun q => "," ++ q.name ++ ":tasks," ++ q.name ++ ":consumers")
    ++ "\n"

/-- The row of a reading. -/
def csvRow (now : Int) (queues : List QueueStatus) : String :=
  Calendar.timestamp now
    ++ String.join (queues.map fun q => "," ++ q.pendingJobs.text ++ "," ++ q.consumerCount.text)
    ++ "\n"

/-- The files after a reading has been recorded in one of them. Only a file that is new gets a
header. -/
def recordIn (file : String) (now : Int) (m : StatusMap) (d : Folder) : Except FileFault Folder :=
  let queues := m.values
  d.append file ((if d.holds file then "" else csvHeader queues) ++ csvRow now queues)

/-- Records a reading in a file. -/
def record {σ : Type} (file : String) (m : StatusMap) : Run σ Unit := do
  let s ← Run.session
  match recordIn file s.now m s.files with
  | .ok files => Run.modify fun s => { s with files }
  | .error f => Run.fail f.failure

end JobWatch.Report
