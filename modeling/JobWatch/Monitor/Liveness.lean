import JobWatch.Backend.Basic
import JobWatch.Backoff
import JobWatch.Log.Logger
import JobWatch.Workers.Query

/-!
Whether a job still has work: jobs in its queues, or a worker at one. A check first makes sure
that there are workers at all, and waits for them for a while if there are none.
-/
namespace JobWatch

/-- Which queues count for the backlog of a job. -/
inductive JobsScope where
  /-- Every queue that has been read. -/
  | all
  /-- Only the relevant ones of them. -/
  | relevant
deriving DecidableEq, Repr

def JobsScope.ofName (name : Option String) : Except Failure JobsScope :=
  match (name.filter (· ≠ "")).getD "all" with
  | "all" => .ok .all
  | "relevant" => .ok .relevant
  | other => .error (.configuration ("unknown jobsScope: " ++ other))

/-- The jobs of a reading that count. -/
def JobsScope.totalJobs (scope : JobsScope) (statuses : StatusMap) (view : JobView) : Binary64 :=
  match scope with
  | all => aggregateJobs statuses.values
  | relevant => aggregateJobs (filterStatuses statuses view.relevantQueues)

structure Monitor (σ : Type) where
  backend : Backend σ
  logger : Log.Logger
  scope : JobsScope
  /-- How the wait for workers sleeps. -/
  sleep : Sleeper σ

structure CheckOptions (σ : Type) where
  sleepSeconds : Binary64
  /-- The queues whose backlog is read, the relevant ones if none are given. -/
  statusQueues : Option (List String)
  /-- Is given the reading of the check. -/
  onSnapshot : StatusMap → Run σ Unit

namespace Monitor

/-- How many times the wait looks for workers. -/
def maxWorkerChecks : Nat := 10

variable {σ : Type}

def create (backend : Backend σ) (logger : Log.Logger) (scope : Option String)
    (sleep : Sleeper σ) : Except Failure (Monitor σ) :=
  (JobsScope.ofName scope).map fun scope => ⟨backend, logger.child "Monitor", scope, sleep⟩

/-- Looks for workers until one is there or the budget is used up; answers with the number of
failed looks. The first argument bounds their number. -/
def lookForWorkers (m : Monitor σ) (expected : List String) : Nat → Backoff → Run σ Nat
  | 0, _ => Run.unfinished
  | looks + 1, budget => do
    Run.throwIfAborted
    let running ← m.backend.workerIdentifiers
    m.logger.info
      ("checking for workers, running workers = [" ++ Text.join ", " running ++ "] ...")
    if hasExpectedWorker expected running then return budget.attempts
    let budget := budget.fail
    if budget.isExhausted then
      Run.fail (.noWorkers expected (Binary64.ofNat budget.attempts))
    else
      budget.pause m.sleep
      m.lookForWorkers expected looks budget

/-- Waits for one of the expected workers. -/
def waitForWorkers (m : Monitor σ) (view : JobView) (sleepSeconds : Binary64) : Run σ Nat := do
  Run.require (Delay.validate sleepSeconds "sleepSeconds")
  m.logger.info
    ("Checking for the following workers: " ++ Text.join ", " view.expectedWorkers)
  m.lookForWorkers view.expectedWorkers maxWorkerChecks
    (Backoff.new (Binary64.ofNat maxWorkerChecks) (Delay.ofSeconds sleepSeconds))

/-- Decides whether the job still has work. -/
def check (m : Monitor σ) (view : JobView) (o : CheckOptions σ) : Run σ Bool := do
  Run.require (Delay.validate o.sleepSeconds "sleepSeconds")
  Run.throwIfAborted
  let statuses ← m.backend.queueStatus (o.statusQueues.getD view.relevantQueues)
  m.logger.debug "queue status:" [.statuses statuses]
  o.onSnapshot statuses
  let jobs := m.scope.totalJobs statuses view
  m.backend.watchQueues view.relevantQueues
  let snapshot ← m.backend.activeQueues
  m.logger.debug "active queues:" [.activeQueues snapshot.activeQueues]
  let consumers := aggregateConsumers snapshot.activeQueues view.relevantQueues
  m.logger.info
    ("found " ++ jobs.text ++ " jobs in queues and " ++ toString consumers ++ " workers alive")
  if consumers = 0 then
    let _ ← m.waitForWorkers view o.sleepSeconds
  let active ← if jobs.isPositive then pure true else do
    Run.throwIfAborted
    m.backend.workersProcessing view.relevantQueues
  m.logger.debug ("active tasks: " ++ (if active then "true" else "false")) []
  return active

end Monitor

end JobWatch
