import JobWatch.Monitor.Liveness
import JobWatch.Proofs.Number.Order
import JobWatch.Proofs.Run.Laws

/-!
# The phases of a check

A check reads the backlog, reads who is at work, waits for workers if there are none, and asks
whether one of them is busy if nothing is queued. The phases are named here, and a check is shown
to be their sequence. No phase is claimed to succeed.
-/

namespace JobWatch.Monitor

variable {σ : Type}

theorem isExhausted_iff {budget : Backoff}
    (limit : budget.limit = Binary64.ofNat maxWorkerChecks) :
    budget.isExhausted = true ↔ maxWorkerChecks ≤ budget.attempts := by
  have exact : Binary64.ofNat maxWorkerChecks =
      .finite false (maxWorkerChecks * Binary64.one) := by
    decide +kernel
  rw [Backoff.isExhausted, limit, exact, Binary64.atMost_whole]
  exact Int.ofNat_le

/-- The backlog is read and handed on, and the relevant queues are watched from then on. -/
def readBacklog (m : Monitor σ) (view : JobView) (o : CheckOptions σ) : Run σ StatusMap := do
  let statuses ← m.backend.queueStatus (o.statusQueues.getD view.relevantQueues)
  m.logger.debug "queue status:" [.statuses statuses]
  o.onSnapshot statuses
  m.backend.watchQueues view.relevantQueues
  return statuses

/-- Waits for workers if there are none. -/
def awaitWorkers (m : Monitor σ) (view : JobView) (o : CheckOptions σ) (consumers : Nat) :
    Run σ Unit :=
  if consumers = 0 then do
    let _ ← m.waitForWorkers view o.sleepSeconds
    return ()
  else return ()

/-- Something is queued, or a worker is at one of the relevant queues. -/
def findWork (m : Monitor σ) (view : JobView) (jobs : Binary64) : Run σ Bool :=
  if jobs.isPositive then return true
  else do
    Run.throwIfAborted
    m.backend.workersProcessing view.relevantQueues

/-- What is made of the two readings. -/
def conclude (m : Monitor σ) (view : JobView) (o : CheckOptions σ) (statuses : StatusMap)
    (snapshot : ActiveSnapshot) : Run σ Bool := do
  m.logger.debug "active queues:" [.activeQueues snapshot.activeQueues]
  m.logger.info ("found " ++ (m.scope.totalJobs statuses view).text ++ " jobs in queues and "
    ++ toString (aggregateConsumers snapshot.activeQueues view.relevantQueues) ++ " workers alive")
  m.awaitWorkers view o (aggregateConsumers snapshot.activeQueues view.relevantQueues)
  let active ← m.findWork view (m.scope.totalJobs statuses view)
  m.logger.debug ("active tasks: " ++ (if active then "true" else "false")) []
  return active

theorem check_eq (m : Monitor σ) (view : JobView) (o : CheckOptions σ) :
    m.check view o = (do
      Run.require (Delay.validate o.sleepSeconds "sleepSeconds")
      Run.throwIfAborted
      let statuses ← m.readBacklog view o
      let snapshot ← m.backend.activeQueues
      m.conclude view o statuses snapshot) := by
  simp only [check, readBacklog, conclude, awaitWorkers, findWork, bind_assoc, pure_bind]
  refine bind_congr fun _ => bind_congr fun _ => bind_congr fun statuses => bind_congr fun _ =>
    bind_congr fun _ => bind_congr fun _ => bind_congr fun snapshot => bind_congr fun _ =>
    bind_congr fun _ => ?_
  by_cases idle : aggregateConsumers snapshot.activeQueues view.relevantQueues = 0
  · by_cases queued : (m.scope.totalJobs statuses view).isPositive = true <;>
      simp [idle, queued, bind_assoc, pure_bind]
  · by_cases queued : (m.scope.totalJobs statuses view).isPositive = true <;>
      simp [idle, queued, bind_assoc, pure_bind]

/-- What comes after the reading has been handed on. -/
def decide (m : Monitor σ) (view : JobView) (o : CheckOptions σ) (statuses : StatusMap) :
    Run σ Bool := do
  m.backend.watchQueues view.relevantQueues
  let snapshot ← m.backend.activeQueues
  m.conclude view o statuses snapshot

theorem check_eq_decide (m : Monitor σ) (view : JobView) (o : CheckOptions σ) :
    m.check view o = (do
      Run.require (Delay.validate o.sleepSeconds "sleepSeconds")
      Run.throwIfAborted
      let statuses ← m.backend.queueStatus (o.statusQueues.getD view.relevantQueues)
      m.logger.debug "queue status:" [.statuses statuses]
      o.onSnapshot statuses
      m.decide view o statuses) := by
  simp only [check_eq, readBacklog, decide, bind_assoc, pure_bind]

end JobWatch.Monitor
