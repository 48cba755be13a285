import JobWatch.Command.Args
import JobWatch.Command.Exit
import JobWatch.Report.Csv
import JobWatch.Report.Ink
import JobWatch.Report.Table
import JobWatch.Watcher

/-!
The command line as a whole: it reads the job's spec, sets up the service, does what it is told,
and cleans up however that ends.
-/
namespace JobWatch.Command

def usage : String :=
  Text.join "\n"
    ["Usage:",
      "  queuewatch status <spec.yaml> [--steps a,b] [--csv file]",
      "  queuewatch monitor <spec.yaml> [--sleep seconds] [--steps a,b] [--csv file]",
      "  queuewatch workers <spec.yaml> [--queues a,b] [--workers regex]",
      "",
      "Options:",
      "  --redis <url>        Redis URL (default: $QUEUEWATCH_REDIS_URL or redis://localhost:6379)",
      "  --prefix <prefix>    BullMQ key prefix (default: bull)",
      "  --log-level <level>  debug | info | warn | error (default: info)"]

/-- What the program finds around it. -/
structure Setting (β : Type) where
  broker : Broker β
  coloured : Bool
  /-- The broker's address by the environment. -/
  url : Option String
  /-- How many checks a run makes at most. -/
  checkLimit : Nat

/-- The interrupts that end a run of checks. -/
def interrupts : List String := ["SIGINT", "SIGTERM"]

variable {β : Type}

def printLine (line : String) : Run (Service β) Unit := Run.emit (.console .log line [])

/-- Reads the spec of a job from a file. -/
def loadSpec {σ : Type} (path : String) : Run σ Job.Spec := do
  match (← Run.session).files.read path with
  | .ok source => Run.require (Job.Spec.parse source)
  | .error f => Run.fail f.failure

/-- Records a reading if a file is named. -/
def recordIfNamed (file : Option String) (m : StatusMap) : Run (Service β) Unit :=
  match file.filter (· ≠ "") with
  | some file => Report.record file m
  | none => pure ()

def listWorkers (s : Setting β) (a : Args) (spec : Job.Spec) (w : Watcher β) :
    Run (Service β) Unit := do
  let pattern := match a.workerPattern with
    | some source => .text source
    | none => .absent
  let workers ← w.queryWorkers ⟨spec.workerNames, a.queues.getD [], pattern⟩
  if workers.isEmpty then
    printLine (Report.painted s.coloured .yellow "No matching workers are connected")
  else printLine (Report.workerTable s.coloured workers)

def showStatus (s : Setting β) (a : Args) (spec : Job.Spec) (w : Watcher β) :
    Run (Service β) Unit := do
  let statuses ← w.queryStatus (.spec spec) a.steps
  printLine (Report.statusTable s.coloured statuses)
  recordIfNamed a.csvFile statuses

def watchJob (s : Setting β) (a : Args) (spec : Job.Spec) (w : Watcher β) :
    Run (Service β) Unit := do
  let queues ← Run.require (spec.queues a.steps)
  let summary ← w.monitorUntilIdle s.checkLimit (.spec spec) ⟨none, some queues⟩
    (recordIfNamed a.csvFile)
  printLine (Report.painted s.coloured .green "✓" ++ " " ++ spec.name ++ ": work finished after "
    ++ toString summary.checks ++ " checks")

/-- Does what the verb says. -/
def perform (s : Setting β) (a : Args) (spec : Job.Spec) (w : Watcher β) :
    Run (Service β) Unit :=
  match a.verb with
  | .workers => listWorkers s a spec w
  | .status => showStatus s a spec w
  | .monitor => watchJob s a spec w

/-- From now on an interrupt raises the signal. -/
def listen : Run (Service β) Unit :=
  Run.modify fun s => { s with signal := .clear, listening := interrupts }

def stopListening : Run (Service β) Unit := Run.modify fun s => { s with listening := [] }

/-- What the arguments say about the service. -/
def Args.config (a : Args) (queues : List String) : Watcher.Config where
  connection := some (.address a.redisUrl)
  backend := { keyPrefix := a.keyPrefix, queues }
  sleepSeconds := some a.sleepSeconds
  logging := { level := some a.logLevel.name }

def run (s : Setting β) (a : Args) : Run (Service β) Unit := do
  let spec ← loadSpec a.specPath
  let queues ← Run.require (spec.queues [Job.everyStep])
  let watcher ← Watcher.create s.broker (a.config queues)
  listen
  (perform s a spec watcher).ensuring do
    stopListening
    watcher.shutdown

/-- The whole program: what it prints and does, and the number it exits with. -/
def execute (s : Setting β) (argv : List String) : Run (Service β) Nat :=
  match parse s.url argv with
  | .error f => do
    Run.emit (.console .error (Report.painted s.coloured .red f.message) [])
    Run.emit (.console .error usage [])
    return Exit.failed
  | .ok a => do
    match ← (run s a).attempt with
    | .ok _ => return Exit.success
    | .error t =>
      Run.emit (.console .error (Report.painted s.coloured .red "Error:")
        [.value (.text t.describe)])
      return t.exitCode

end JobWatch.Command
