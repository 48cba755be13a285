import JobWatch.Monitor.Liveness

/-!
Checking again and again until a job is idle.
-/
namespace JobWatch

/-- What a run of checks comes to. -/
structure Summary where
  checks : Nat
  durationMs : Nat
deriving DecidableEq, Repr

structure WatchOptions (σ : Type) where
  sleepSeconds : Binary64
  statusQueues : Option (List String)
  /-- Is given the reading of every check. -/
  report : StatusMap → Run σ Unit

structure MonitorLoop (σ : Type) where
  monitor : Monitor σ
  logger : Log.Logger
  /-- How the loop sleeps between two checks. -/
  sleep : Sleeper σ

namespace MonitorLoop

variable {σ : Type}

def create (monitor : Monitor σ) (logger : Log.Logger) (sleep : Sleeper σ) : MonitorLoop σ :=
  ⟨monitor, logger.child "Monitor", sleep⟩

/-- The checks after the first `done` ones; answers with the number of all of them. The first
argument bounds how many are made. -/
def checkUntilIdle (l : MonitorLoop σ) (view : JobView) (o : WatchOptions σ) :
    Nat → Nat → Run σ Nat
  | 0, _ => Run.unfinished
  | left + 1, done => do
    let active ← l.monitor.check view ⟨o.sleepSeconds, o.statusQueues, o.report⟩
    if !active then return done + 1
    l.logger.info "found tasks in queues and/or tasks being processed"
    l.sleep (Delay.ofSeconds o.sleepSeconds)
    l.checkUntilIdle view o left (done + 1)

/-- Checks until the job is idle, but no more than `limit` times. -/
def run (l : MonitorLoop σ) (limit : Nat) (view : JobView) (o : WatchOptions σ) :
    Run σ Summary := do
  let started ← Run.now
  let checks ← l.checkUntilIdle view o limit 0
  let durationMs := (← Run.now) - started
  l.logger.info ("queues are empty and workers are idle after " ++ toString checks
    ++ " checks (" ++ toString durationMs ++ "ms)")
  return ⟨checks, durationMs⟩

end MonitorLoop

end JobWatch
