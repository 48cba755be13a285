import JobWatch.Backend.Basic
import JobWatch.Broker.Basic
import JobWatch.Log.Logger

/-!
The backend over a broker's queues. It opens a handle for each queue when it first needs one,
keeps the handles until it is disposed, and makes its round trips under a breaker. A round trip
that fails is not tried again.
-/
namespace JobWatch

/-- The states of jobs that nobody has picked up. -/
def pendingStates : List String := ["wait", "prioritized", "delayed", "paused"]

/-- The backlog in the counts of a queue; what is missing or no number counts nothing. -/
def pendingJobs (counts : List (String × Binary64)) : Binary64 :=
  pendingStates.foldl (fun total state =>
    total + ((counts.lookup state).filter Binary64.isTruthy).getD .zero) .zero

/-- What a backend over queues works with. -/
structure QueueBackend (β : Type) where
  broker : Broker β
  logger : Log.Logger
  /-- The prefix of the broker's keys, unless the handles are opened by means given. -/
  keyPrefix : Option String

namespace QueueBackend

variable {β α : Type}

/-- Opens a handle for a queue that has none. -/
def hold (b : QueueBackend β) (queue : String) : Run (Service β) Unit := do
  let pool ← Run.pool
  if queue ∈ pool.handles then return
  Run.call (.openHandle queue b.keyPrefix) (b.broker.openHandle queue)
  Run.modifyPool fun p => { p with handles := p.handles ++ [queue] }
  b.logger.debug ("Watching BullMQ queue: " ++ queue) []

def holdAll (b : QueueBackend β) : List String → Run (Service β) Unit
  | [] => pure ()
  | queue :: rest => do
    b.hold queue
    b.holdAll rest

def watch (b : QueueBackend β) (queues : List String) : Run (Service β) Unit := do
  if (← Run.pool).disposed then return
  b.holdAll queues

def disposedReason : String := Backend.typeName ++ " backend has been disposed"

/-- What a failed round trip fails with. A failure that already says that the backend is
unavailable is passed on. -/
def outage (operation : String) (t : Thrown) : Failure :=
  .backendUnavailable (operation ++ " failed: " ++ t.message) t.failure?

/-- One round trip under the breaker. -/
def roundTrip (b : QueueBackend β) (operation : String) (trip : Run (Service β) α) :
    Run (Service β) α := do
  let pool ← Run.pool
  if pool.disposed then Run.fail (.backendUnavailable disposedReason none)
  else match pool.breaker.start? (← Run.now) with
    | none => Run.fail pool.breaker.refusal
    | some breaker =>
      Run.modifyPool fun p => { p with breaker }
      match ← trip.attempt with
      | .ok a =>
        Run.modifyPool fun p => { p with breaker := p.breaker.succeed }
        return a
      | .error t =>
        let now ← Run.now
        Run.modifyPool fun p => { p with breaker := p.breaker.fail now }
        if t.isOf .backendUnavailable then Run.throw t
        else
          b.logger.error (operation ++ " failed:") [.thrown t]
          Run.fail (outage operation t)

/-- The status of one queue. -/
def readStatus (b : QueueBackend β) (queue : String) : Run (Service β) QueueStatus := do
  b.hold queue
  let counts ← Run.call (.jobCounts queue) (b.broker.jobCounts queue)
  let workers ← Run.call (.workers queue) (b.broker.workers queue)
  return ⟨queue, pendingJobs counts, Binary64.ofNat workers.length⟩

def readStatuses (b : QueueBackend β) : StatusMap → List String → Run (Service β) StatusMap
  | m, [] => return m
  | m, queue :: rest => do
    let status ← b.readStatus queue
    b.readStatuses (m.file queue status) rest

/-- The workers on queues that have any, added to what is known. -/
def readWorkers (b : QueueBackend β) :
    ActiveQueues → List String → List String → Run (Service β) ActiveSnapshot
  | m, workers, [] => return ⟨some m, workers⟩
  | m, workers, queue :: rest => do
    let clients ← Run.call (.workers queue) (b.broker.workers queue)
    let names := clients.map WorkerClient.identifier
    if clients.isEmpty then b.readWorkers m workers rest
    else b.readWorkers (m.file queue names) (names.foldl remember workers) rest

def readActive (b : QueueBackend β) : Run (Service β) ActiveSnapshot :=
  b.roundTrip "queryActiveQueues" do
    b.readWorkers KeyedMap.empty [] (← Run.pool).handles

/-- Some queue has a job that a worker is at. -/
def anyProcessing (b : QueueBackend β) : List String → Run (Service β) Bool
  | [] => return false
  | queue :: rest => do
    b.hold queue
    let active ← Run.call (.activeCount queue) (b.broker.activeCount queue)
    if active.isPositive then
      b.logger.debug
        ("Queue " ++ queue ++ " has " ++ active.text ++ " jobs in progress") []
      return true
    else b.anyProcessing rest

/-- Closes handles one after the other, whether or not it works; answers with what the first
that failed has thrown. -/
def closeAll (b : QueueBackend β) : List String → Run (Service β) (Option Thrown)
  | [] => return none
  | queue :: rest => do
    let result ← (Run.call (.close queue) (b.broker.close queue)).attempt
    let later ← b.closeAll rest
    return match result with
      | .ok _ => later
      | .error t => some t

/-- Lets go of all handles. The backend counts as disposed only if every handle could be closed. -/
def dispose (b : QueueBackend β) : Run (Service β) Unit := do
  let pool ← Run.pool
  if pool.disposed then return
  Run.modifyPool fun p => { p with handles := [] }
  match ← b.closeAll pool.handles with
  | some t => Run.throw t
  | none =>
    Run.modifyPool fun p => { p with disposed := true }
    b.logger.info ("Disposed " ++ Backend.typeName ++ " backend")

def backend (b : QueueBackend β) : Backend (Service β) where
  watchQueues queues := b.watch queues
  queueStatus queues := b.roundTrip "queryQueueStatus" (b.readStatuses KeyedMap.empty queues)
  activeQueues := b.readActive
  workerIdentifiers := do return (← b.readActive).workers
  workersProcessing queues := b.roundTrip "queryWorkersProcessing" (b.anyProcessing queues)
  dispose := b.dispose
  health s := some s.pool.breaker

/-- What a configuration says about a backend. -/
structure Config where
  type : Option String := none
  keyPrefix : Option String := none
  queues : List String := []
  threshold : Option Binary64 := none
  timeoutMs : Option Binary64 := none
deriving DecidableEq, Repr

def defaultKeyPrefix : String := "bull"

/-- Sets up a backend over queues and opens the handles of the queues configured. With `own`
the handles are opened by the broker's own means. -/
def create (broker : Broker β) (c : Config) (logger : Log.Logger) (own : Bool) :
    Run (Service β) (QueueBackend β) := do
  let keyPrefix := Connection.filled c.keyPrefix defaultKeyPrefix
  let b : QueueBackend β := ⟨broker, logger.child "Backend", if own then some keyPrefix else none⟩
  Run.modifyPool fun _ => Pool.new c.threshold c.timeoutMs
  b.watch c.queues
  return b

/-- The backend of the type configured. -/
def select (broker : Broker β) (c : Config) (logger : Log.Logger) :
    Run (Service β) (QueueBackend β) :=
  let type := Connection.filled c.type Backend.typeName
  if type = Backend.typeName then create broker c logger true
  else Run.fail (.unsupportedBackend type)

end QueueBackend

end JobWatch
