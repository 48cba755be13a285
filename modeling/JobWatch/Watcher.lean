import JobWatch.Backend.Queues
import JobWatch.Connection.Manager
import JobWatch.Job.Spec
import JobWatch.Monitor.Loop

/-!
The service as a whole: a backend with a monitor over it, and the connection that it owns if it
has made one. After it has been shut down it answers no more questions.
-/
namespace JobWatch

/-- What a job is known by: its spec, or only what a check has to know. -/
inductive Subject where
  | spec (s : Job.Spec)
  | view (v : JobView)

def Subject.toView : Subject → Except Failure JobView
  | spec s => s.view
  | view v => .ok v

namespace Watcher

structure Config where
  connection : Option Connection.Config := none
  backend : QueueBackend.Config := {}
  sleepSeconds : Option Binary64 := none
  jobsScope : Option String := none
  logging : Log.Config := {}
deriving DecidableEq, Repr

def defaultSleepSeconds : Binary64 := 1

/-- What a caller may say about a check, a run of checks or its end. -/
structure Options where
  sleepSeconds : Option Binary64 := none
  statusQueues : Option (List String) := none
deriving DecidableEq, Repr

end Watcher

structure Watcher (β : Type) where
  backend : Backend (Service β)
  logger : Log.Logger
  monitor : Monitor (Service β)
  loop : MonitorLoop (Service β)
  sleepSeconds : Binary64
  /-- The connection that is closed with the service. -/
  connection : Option (Connection.Manager β)

namespace Watcher

variable {β : Type}

/-- Puts a service together. -/
def assemble (backend : Backend (Service β)) (c : Config) (logger : Log.Logger)
    (connection : Option (Connection.Manager β)) : Except Failure (Watcher β) := do
  let sleepSeconds := c.sleepSeconds.getD defaultSleepSeconds
  Delay.validate sleepSeconds "monitor.sleepSeconds"
  let monitor ← Monitor.create backend logger c.jobsScope Run.pause
  return ⟨backend, logger, monitor, .create monitor logger Run.pause, sleepSeconds, connection⟩

/-- A service over a backend that somebody else owns. -/
def withBackend (backend : Backend (Service β)) (c : Config) : Except Failure (Watcher β) := do
  assemble backend c (← Log.Logger.create c.logging) none

/-- What is made on a connection: the backend and the service over it. -/
def build (broker : Broker β) (c : Config) (logger : Log.Logger)
    (manager : Connection.Manager β) : Run (Service β) (Watcher β) := do
  manager.test
  let queues ← QueueBackend.select broker c.backend logger
  let watcher ← Run.require (assemble queues.backend c logger (some manager))
  logger.info ("QueueWatch initialized with " ++ Backend.typeName ++ " backend")
  return watcher

/-- Where to connect to, if the configuration says so. -/
def Config.target? (c : Config) : Option Connection.Config :=
  c.connection.filter fun t => t ≠ .address ""

/-- A service with a connection of its own. When anything goes wrong after the connection has
been made, it is closed. -/
def create (broker : Broker β) (c : Config) : Run (Service β) (Watcher β) :=
  match c.target? with
  | none => Run.fail (.configuration "redis configuration is required")
  | some target => do
    let logger ← Run.require (Log.Logger.create c.logging)
    let manager ← Connection.Manager.create broker target logger
    match ← (build broker c logger manager).attempt with
    | .ok watcher => return watcher
    | .error t =>
      manager.close
      Run.throw t

def isShutDown : Run (Service β) Bool := do return (← Run.outside).shutDown

def requireActive : Run (Service β) Unit := do
  if ← isShutDown then Run.fail (.plain "QueueWatch has been shut down")

/-- Whether a job still has work. -/
def checkStatus (w : Watcher β) (job : Subject) (o : Options) : Run (Service β) Bool := do
  requireActive
  let view ← Run.require job.toView
  w.monitor.check view
    ⟨o.sleepSeconds.getD w.sleepSeconds, o.statusQueues, fun _ => pure ()⟩

/-- Checks until a job is idle, but no more than `limit` times. -/
def monitorUntilIdle (w : Watcher β) (limit : Nat) (job : Subject) (o : Options)
    (report : StatusMap → Run (Service β) Unit) : Run (Service β) Summary := do
  requireActive
  let view ← Run.require job.toView
  w.loop.run limit view ⟨o.sleepSeconds.getD w.sleepSeconds, o.statusQueues, report⟩

/-- The queues of a selection of a job's steps. Only a spec has steps to select from. -/
def selectQueues (job : Subject) (steps : List String) : Except Failure (List String) :=
  match job with
  | .spec s => s.queues steps
  | .view _ => .error (.foreign true "spec.getQueueList is not a function")

/-- The status of the queues that some steps of a job feed. -/
def queryStatus (w : Watcher β) (job : Subject) (steps : List String) :
    Run (Service β) StatusMap := do
  requireActive
  w.logger.info ("Querying queues for steps = " ++ Text.join ", " steps)
  w.backend.queueStatus (← Run.require (selectQueues job steps))

/-- The workers on each watched queue; the queues given are watched from now on. -/
def activeQueues (w : Watcher β) (queues : List String) :
    Run (Service β) (Option ActiveQueues) := do
  requireActive
  w.backend.watchQueues queues
  return (← w.backend.activeQueues).activeQueues

def workers (w : Watcher β) (queues : List String) : Run (Service β) (List String) := do
  requireActive
  w.backend.watchQueues queues
  w.backend.workerIdentifiers

/-- The workers that a query asks for, each with its queues. -/
def queryWorkers (w : Watcher β) (query : WorkerQuery) : Run (Service β) (List WorkerInfo) := do
  requireActive
  w.backend.watchQueues query.queues
  let snapshot ← w.backend.activeQueues
  let found ← Run.require (filterWorkers snapshot.activeQueues query)
  w.logger.info ("Found " ++ toString found.length ++ " matching workers")
  return found

def health (w : Watcher β) : Run (Service β) (Option Breaker) := do
  return w.backend.health (← Run.outside)

def closeConnection (w : Watcher β) : Run (Service β) Unit :=
  match w.connection with
  | some manager => manager.close
  | none => pure ()

/-- Ends the service: the backend is disposed and the connection closed, whether or not that
works. -/
def shutdown (w : Watcher β) : Run (Service β) Unit := do
  if ← isShutDown then
    w.logger.warn "QueueWatch is already shut down" []
  else
    w.logger.info "Shutting down QueueWatch"
    Run.modifyOutside fun s => { s with shutDown := true }
    w.backend.dispose.ensuring w.closeConnection
    w.logger.info "QueueWatch shutdown complete"

end Watcher

end JobWatch
