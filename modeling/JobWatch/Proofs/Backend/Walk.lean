import JobWatch.Backend.Queues
import JobWatch.Proofs.Run.Spans

/-!
# Walking through the use of a backend

Every query of a backend over queues is made of a few steps: a handle is opened, a queue is read,
the breaker is told of a call. A relation between start, trail and end that composes and holds of
each step holds of every query, whichever calls fail and wherever the query ends. Disposing of a
backend is not a use of it, and is walked through by itself.
-/

namespace JobWatch

open Run

variable {σ β α : Type}

/-- Every use of the backend leads as described. -/
structure Backend.Guides (b : Backend σ) (R : Session σ → List Event → Session σ → Prop) :
    Prop where
  watchQueues : ∀ queues, Spans R (b.watchQueues queues)
  queueStatus : ∀ queues, Spans R (b.queueStatus queues)
  activeQueues : Spans R b.activeQueues
  workerIdentifiers : Spans R b.workerIdentifiers
  workersProcessing : ∀ queues, Spans R (b.workersProcessing queues)

/-- The calls by which a backend is used. -/
def BrokerCall.isUse : BrokerCall → Bool
  | .openHandle _ _ => true
  | .jobCounts _ => true
  | .workers _ => true
  | .activeCount _ => true
  | _ => false

namespace QueueBackend

/-- The steps that queries are made of lead as described. -/
structure Steps (b : QueueBackend β)
    (R : Session (Service β) → List Event → Session (Service β) → Prop) : Prop where
  hold : ∀ queue, Spans R (b.hold queue)
  jobCounts : ∀ queue, Spans R (call (.jobCounts queue) (b.broker.jobCounts queue))
  workers : ∀ queue, Spans R (call (.workers queue) (b.broker.workers queue))
  activeCount : ∀ queue, Spans R (call (.activeCount queue) (b.broker.activeCount queue))
  breaker : ∀ (s : Session (Service β)) breaker,
    R s [] { s with outside := { s.outside with pool := { s.outside.pool with breaker } } }

variable {b : QueueBackend β}
  {R : Session (Service β) → List Event → Session (Service β) → Prop}

theorem spans_pool (composes : Composes R) : Spans R Run.pool :=
  composes.bind composes.outside fun _ => composes.pure _

/-- What does not depend on which handles are held or on the breaker leads through the steps if
each call leads as described. -/
theorem steps_of_calls (composes : Composes R)
    (asking : ∀ {α : Type} (c : BrokerCall) (respond : Responder β α), c.isUse = true →
      Spans R (call c respond))
    (renew : ∀ (s : Session (Service β)) handles breaker, R s [] { s with
      outside := { s.outside with pool := { s.outside.pool with handles, breaker } } }) :
    b.Steps R where
  hold queue := by
    refine composes.bind (spans_pool composes) fun pool => ?_
    by_cases held : queue ∈ pool.handles
    · simp only [if_pos held]
      exact composes.pure ()
    · simp only [if_neg held]
      have noted : Spans R (modifyPool fun p => { p with handles := p.handles ++ [queue] }) :=
        fun s => renew s (s.outside.pool.handles ++ [queue]) s.outside.pool.breaker
      exact composes.bind (asking (.openHandle queue _) _ rfl) fun _ =>
        composes.bind noted fun _ => composes.log _ _ _ _
  jobCounts queue := asking (.jobCounts queue) _ rfl
  workers queue := asking (.workers queue) _ rfl
  activeCount queue := asking (.activeCount queue) _ rfl
  breaker s := renew s s.outside.pool.handles

namespace Steps

theorem holdAll (steps : b.Steps R) (composes : Composes R) (queues : List String) :
    Spans R (b.holdAll queues) := by
  induction queues with
  | nil => exact composes.pure ()
  | cons queue rest ih => exact composes.bind (steps.hold queue) fun _ => ih

theorem watch (steps : b.Steps R) (composes : Composes R) (queues : List String) :
    Spans R (b.watch queues) := by
  refine composes.bind (spans_pool composes) fun pool => ?_
  by_cases gone : pool.disposed = true
  · simp only [if_pos gone]
    exact composes.pure ()
  · simp only [if_neg gone]
    exact steps.holdAll composes queues

/-- A trip under the breaker leads where the trip leads. -/
theorem roundTrip (steps : b.Steps R) (composes : Composes R) (operation : String)
    {trip : Run (Service β) α} (h : Spans R trip) : Spans R (b.roundTrip operation trip) := by
  have tell (f : Pool → Breaker) : Spans R (modifyPool fun p => { p with breaker := f p }) :=
    fun s => steps.breaker s (f s.outside.pool)
  refine composes.bind (spans_pool composes) fun pool => ?_
  by_cases gone : pool.disposed = true
  · simp only [if_pos gone]
    exact composes.fail _
  · simp only [if_neg gone]
    refine composes.bind composes.now fun now => ?_
    cases pool.breaker.start? now with
    | none => exact composes.fail _
    | some breaker =>
      refine composes.bind (tell fun _ => breaker) fun _ => composes.bind h.attempt fun result => ?_
      cases result with
      | ok a => exact composes.bind (tell fun p => p.breaker.succeed) fun _ => composes.pure a
      | error t =>
        refine composes.bind composes.now fun later =>
          composes.bind (tell fun p => p.breaker.fail later) fun _ => ?_
        by_cases known : t.isOf .backendUnavailable = true
        · simp only [if_pos known]
          exact composes.throw t
        · simp only [if_neg known]
          exact composes.bind (composes.log _ _ _ _) fun _ => composes.fail _

theorem readStatuses (steps : b.Steps R) (composes : Composes R) (m : StatusMap)
    (queues : List String) : Spans R (b.readStatuses m queues) := by
  induction queues generalizing m with
  | nil => exact composes.pure m
  | cons queue rest ih =>
    have one : Spans R (b.readStatus queue) :=
      composes.bind (steps.hold queue) fun _ => composes.bind (steps.jobCounts queue) fun _ =>
        composes.bind (steps.workers queue) fun _ => composes.pure _
    exact composes.bind one fun status => ih (m.file queue status)

theorem readWorkers (steps : b.Steps R) (composes : Composes R) (m : ActiveQueues)
    (workers queues : List String) : Spans R (b.readWorkers m workers queues) := by
  induction queues generalizing m workers with
  | nil => exact composes.pure _
  | cons queue rest ih =>
    refine composes.bind (steps.workers queue) fun clients => ?_
    by_cases deserted : clients.isEmpty = true
    · simp only [if_pos deserted]
      exact ih m workers
    · simp only [if_neg deserted]
      exact ih _ _

theorem anyProcessing (steps : b.Steps R) (composes : Composes R) (queues : List String) :
    Spans R (b.anyProcessing queues) := by
  induction queues with
  | nil => exact composes.pure false
  | cons queue rest ih =>
    refine composes.bind (steps.hold queue) fun _ =>
      composes.bind (steps.activeCount queue) fun active => ?_
    by_cases busy : active.isPositive = true
    · simp only [if_pos busy]
      exact composes.bind (composes.log _ _ _ _) fun _ => composes.pure true
    · simp only [if_neg busy]
      exact ih

/-- Where the steps lead, every use of the backend leads. -/
theorem guides (steps : b.Steps R) (composes : Composes R) : b.backend.Guides R := by
  have active : Spans R b.readActive := steps.roundTrip composes _ <|
    composes.bind (spans_pool composes) fun _ => steps.readWorkers composes _ _ _
  exact
    { watchQueues := steps.watch composes
      queueStatus := fun queues =>
        steps.roundTrip composes _ (steps.readStatuses composes KeyedMap.empty queues)
      activeQueues := active
      workerIdentifiers := composes.bind active fun _ => composes.pure _
      workersProcessing := fun queues =>
        steps.roundTrip composes _ (steps.anyProcessing composes queues) }

end Steps

theorem spans_dispose (composes : Composes R)
    (closing : ∀ queue, Spans R (call (.close queue) (b.broker.close queue)))
    (renew : ∀ (s : Session (Service β)) handles disposed, R s [] { s with
      outside := { s.outside with pool := { s.outside.pool with handles, disposed } } }) :
    Spans R b.dispose := by
  have closeAll (queues : List String) : Spans R (b.closeAll queues) := by
    induction queues with
    | nil => exact composes.pure none
    | cons queue rest ih =>
      exact composes.bind (closing queue).attempt fun _ => composes.bind ih fun _ => composes.pure _
  refine composes.bind (spans_pool composes) fun pool => ?_
  by_cases gone : pool.disposed = true
  · simp only [if_pos gone]
    exact composes.pure ()
  · simp only [if_neg gone]
    have emptied : Spans R (modifyPool fun p => { p with handles := [] }) :=
      fun s => renew s [] s.outside.pool.disposed
    refine composes.bind emptied fun _ => composes.bind (closeAll _) fun fault => ?_
    cases fault with
    | some t => exact composes.throw t
    | none =>
      have marked : Spans R (modifyPool fun p => { p with disposed := true }) :=
        fun s => renew s s.outside.pool.handles true
      exact composes.bind marked fun _ => composes.log _ _ _ _

end QueueBackend

end JobWatch
