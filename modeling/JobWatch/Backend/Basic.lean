import JobWatch.Run.Basic
import JobWatch.Breaker

/-!
Backends: those who know the queues of a job and the workers on them.
-/
namespace JobWatch

structure Backend (σ : Type) where
  /-- Adds queues to those that the worker queries look at. -/
  watchQueues : List String → Run σ Unit
  queueStatus : List String → Run σ StatusMap
  activeQueues : Run σ ActiveSnapshot
  workerIdentifiers : Run σ (List String)
  workersProcessing : List String → Run σ Bool
  dispose : Run σ Unit
  /-- The breaker's counts, where there is a breaker. -/
  health : σ → Option Breaker

namespace Backend

/-- The only kind of backend there is. -/
def typeName : String := "bullmq"

end Backend

/-- A backend whose every answer comes from outside. -/
structure BackendResponder (σ : Type) where
  watchQueues : List String → Responder σ Unit
  queueStatus : List String → Responder σ StatusMap
  activeQueues : Responder σ ActiveSnapshot
  workerIdentifiers : Responder σ (List String)
  workersProcessing : List String → Responder σ Bool
  dispose : Responder σ Unit

/-- The backend that passes on what a responder answers. -/
def BackendResponder.backend {σ : Type} (r : BackendResponder σ) : Backend σ where
  watchQueues queues := Run.ask (.backend (.watchQueues queues)) (r.watchQueues queues)
  queueStatus queues := Run.ask (.backend (.queueStatus queues)) (r.queueStatus queues)
  activeQueues := Run.ask (.backend .activeQueues) r.activeQueues
  workerIdentifiers := Run.ask (.backend .workerIdentifiers) r.workerIdentifiers
  workersProcessing queues :=
    Run.ask (.backend (.workersProcessing queues)) (r.workersProcessing queues)
  dispose := Run.ask (.backend .dispose) r.dispose
  health _ := none

end JobWatch
