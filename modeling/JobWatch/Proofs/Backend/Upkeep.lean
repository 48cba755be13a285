import JobWatch.Proofs.Backend.Walk
import JobWatch.Proofs.Broker.Trail

/-!
# What the use of a backend keeps

How each operation of a backend over queues can go is said here once. An invariant that survives
the moves that queries are made of survives every query, whichever calls fail and wherever the
query ends. Disposing of the backend is not a use of it, and what that keeps is not said here.
-/

namespace JobWatch

variable {σ β α : Type}

/-- The invariant survives every use of the backend. -/
structure Backend.Upholds (b : Backend σ) (I : List BrokerCall → σ → Prop) : Prop where
  watchQueues : ∀ queues, Run.Keeps I (b.watchQueues queues)
  queueStatus : ∀ queues, Run.Keeps I (b.queueStatus queues)
  activeQueues : Run.Keeps I b.activeQueues
  workerIdentifiers : Run.Keeps I b.workerIdentifiers
  workersProcessing : ∀ queues, Run.Keeps I (b.workersProcessing queues)

namespace QueueBackend

open Run

section Holding

variable {b : QueueBackend β} {queue : String} {s : Session (Service β)}

/-- A handle that is held is not opened again. -/
theorem hold_of_held (held : queue ∈ s.outside.pool.handles) :
    b.hold queue s = ⟨.returned (), [], s⟩ := by
  rw [hold, pool_bind, if_pos held]
  rfl

/-- A handle that is missing is opened, and held from then on. -/
theorem hold_of_missing (missing : queue ∉ s.outside.pool.handles)
    (opens : (b.broker.openHandle queue s.outside.broker).1.outcome = .ok ()) :
    brokerCalls (b.hold queue s).events = [.openHandle queue b.keyPrefix] ∧
      (b.hold queue s).session.outside = { s.outside with
        broker := (b.broker.openHandle queue s.outside.broker).2
        pool := { s.outside.pool with handles := s.outside.pool.handles ++ [queue] } } := by
  have note : Quiet (b.logger.debug ("Watching BullMQ queue: " ++ queue) [] :
      Run (Service β) Unit) := quiet_log
  rw [hold, pool_bind, if_neg missing, bind_returned (call_returned opens), modifyPool_bind]
  constructor
  · rw [brokerCalls_append, call_events]
    exact congrArg _ (note.calls _)
  · refine (note.outside _).trans ?_
    simp only [call_outside]

/-- A handle that cannot be opened is not held. -/
theorem hold_of_failing (missing : queue ∉ s.outside.pool.handles) {t : Thrown}
    (fails : (b.broker.openHandle queue s.outside.broker).1.outcome = .error t) :
    (b.hold queue s).outcome = .threw t ∧
      (b.hold queue s).events = [.broker (.openHandle queue b.keyPrefix)] ∧
      (b.hold queue s).session.outside =
        { s.outside with broker := (b.broker.openHandle queue s.outside.broker).2 } := by
  rw [hold, pool_bind, if_neg missing, bind_threw (call_threw fails)]
  exact ⟨rfl, call_events _ _ s, call_outside _ _ s⟩

theorem follows_hold (missing : queue ∉ s.outside.pool.handles) :
    Follows b.broker [.openHandle queue b.keyPrefix] (b.hold queue) s := by
  have opened : Follows b.broker ([.openHandle queue b.keyPrefix] ++ []) (do
      call (.openHandle queue b.keyPrefix) (b.broker.openHandle queue)
      modifyPool fun p => { p with handles := p.handles ++ [queue] }
      b.logger.debug ("Watching BullMQ queue: " ++ queue) []) s := by
    have note : Quiet (b.logger.debug ("Watching BullMQ queue: " ++ queue) [] :
        Run (Service β) Unit) := quiet_log
    refine (follows_call rfl).bind fun _ _ => follows_nothing (log_returned _) ?_ ?_
    · exact note.calls _
    · rw [modifyPool_bind]
      exact (congrArg Service.broker (note.outside _)).trans rfl
  refine opened.of_eq ?_ rfl
  rw [hold, pool_bind, if_neg missing]

theorem hold_calls (missing : queue ∉ s.outside.pool.handles) :
    brokerCalls (b.hold queue s).events = [.openHandle queue b.keyPrefix] := by
  cases came : (b.broker.openHandle queue s.outside.broker).1.outcome with
  | ok _ => exact (hold_of_missing missing came).1
  | error t => rw [(hold_of_failing missing came).2.1, brokerCalls_broker, brokerCalls_nil]

/-- A queue whose handle could be had is held, at its place if it was held before. -/
theorem handles_hold (came : (b.hold queue s).outcome = .returned ()) :
    (b.hold queue s).session.outside.pool.handles = remember s.outside.pool.handles queue := by
  by_cases held : queue ∈ s.outside.pool.handles
  · rw [hold_of_held held, remember, if_pos held]
  · cases opens : (b.broker.openHandle queue s.outside.broker).1.outcome with
    | ok _ => rw [(hold_of_missing held opens).2, remember, if_neg held]
    | error t =>
      rw [(hold_of_failing held opens).1] at came
      cases came

/-- Of some queues those that are not held yet, each once. -/
def unheld (held : List String) : List String → List String
  | [] => []
  | queue :: rest =>
    if queue ∈ held then unheld held rest else queue :: unheld (remember held queue) rest

theorem foldl_remember_eq (held queues : List String) :
    queues.foldl remember held = held ++ unheld held queues := by
  induction queues generalizing held with
  | nil => exact (List.append_nil held).symm
  | cons queue rest ih =>
    rw [List.foldl_cons, ih, unheld]
    by_cases already : queue ∈ held
    · rw [remember, if_pos already, if_pos already]
    · rw [if_neg already, remember, if_neg already, List.append_assoc, List.singleton_append]

/-- To hold some queues the handles of those not held yet are opened, up to the first that cannot
be. -/
theorem follows_holdAll (b : QueueBackend β) (queues : List String) (s : Session (Service β)) :
    Follows b.broker
      ((unheld s.outside.pool.handles queues).map fun queue => .openHandle queue b.keyPrefix)
      (b.holdAll queues) s := by
  induction queues generalizing s with
  | nil => exact follows_nothing rfl rfl rfl
  | cons queue rest ih =>
    rw [unheld, holdAll]
    by_cases held : queue ∈ s.outside.pool.handles
    · rw [if_pos held]
      refine (ih s).of_eq ?_ rfl
      rw [bind_returned (by rw [hold_of_held held]), hold_of_held held, List.nil_append]
    · rw [if_neg held, List.map_cons, ← List.singleton_append]
      refine (follows_hold held).bind fun _ came => ?_
      rw [← handles_hold came]
      exact ih _

theorem watch_of_used (used : s.outside.pool.disposed = false) (queues : List String) :
    b.watch queues s = b.holdAll queues s := by
  rw [watch, pool_bind, if_neg (by simp [used])]

end Holding

section Trips

variable {b : QueueBackend β} {I : List BrokerCall → Service β → Prop}

/-- What is made of a trip that has ended: the breaker is told, and a failure is passed on or
wrapped. -/
def settle (b : QueueBackend β) (operation : String) : Except Thrown α → Run (Service β) α
  | .ok a => do
    modifyPool fun p => { p with breaker := p.breaker.succeed }
    return a
  | .error t => do
    let now ← now
    modifyPool fun p => { p with breaker := p.breaker.fail now }
    if t.isOf .backendUnavailable then throw t
    else
      b.logger.error (operation ++ " failed:") [.thrown t]
      fail (outage operation t)

/-- What every query of a disposed backend fails with. -/
def disposal : Thrown := .failure (.backendUnavailable disposedReason none)

theorem roundTrip_of_disposed {s : Session (Service β)} (gone : s.outside.pool.disposed = true)
    (operation : String) (trip : Run (Service β) α) :
    b.roundTrip operation trip s = ⟨.threw disposal, [], s⟩ := by
  rw [roundTrip, pool_bind, if_pos gone]
  rfl

theorem roundTrip_of_started {s : Session (Service β)} {breaker : Breaker}
    (used : s.outside.pool.disposed = false)
    (started : s.outside.pool.breaker.start? s.now = some breaker) (operation : String)
    (trip : Run (Service β) α) :
    b.roundTrip operation trip s = (do b.settle operation (← trip.attempt))
      { s with outside := { s.outside with pool := { s.outside.pool with breaker } } } := by
  rw [roundTrip, pool_bind, if_neg (by simp [used]), now_bind, started]
  rfl

theorem roundTrip_of_refused {s : Session (Service β)} (used : s.outside.pool.disposed = false)
    (refused : s.outside.pool.breaker.start? s.now = none) (operation : String)
    (trip : Run (Service β) α) :
    b.roundTrip operation trip s =
      ⟨.threw (.failure s.outside.pool.breaker.refusal), [], s⟩ := by
  rw [roundTrip, pool_bind, if_neg (by simp [used]), now_bind, refused]
  rfl

theorem keeps_settle
    (told : ∀ past w breaker, I past w → I past { w with pool := { w.pool with breaker } })
    (operation : String) (result : Except Thrown α) : Keeps I (b.settle operation result) := by
  have tell (f : Pool → Breaker) : Keeps I (modifyPool fun p => { p with breaker := f p }) :=
    keeps_modifyPool fun past w => told past w (f w.pool)
  cases result with
  | ok a => exact (tell fun p => p.breaker.succeed).bind fun _ => quiet_pure a I
  | error t =>
    refine (quiet_now I).bind fun later => (tell fun p => p.breaker.fail later).bind fun _ => ?_
    by_cases known : t.isOf .backendUnavailable = true
    · simp only [if_pos known]
      exact quiet_throw t I
    · simp only [if_neg known]
      exact (quiet_log I).bind fun _ => quiet_fail _ I

end Trips

/-- The invariant survives the moves that queries are made of. -/
structure Moves (b : QueueBackend β) (I : List BrokerCall → Service β → Prop) : Prop where
  hold : ∀ queue, Keeps I (b.hold queue)
  jobCounts : ∀ queue, Keeps I (call (.jobCounts queue) (b.broker.jobCounts queue))
  workers : ∀ queue, Keeps I (call (.workers queue) (b.broker.workers queue))
  activeCount : ∀ queue, Keeps I (call (.activeCount queue) (b.broker.activeCount queue))
  breaker : ∀ past w breaker, I past w → I past { w with pool := { w.pool with breaker } }

/-- An invariant that survives every call but a closing, and does not depend on which handles are
held or on the breaker, survives the moves. -/
theorem moves_of_calls (b : QueueBackend β) {I : List BrokerCall → Service β → Prop}
    (asking : ∀ {α : Type} (c : BrokerCall) (respond : Responder β α),
      (∀ queue, c ≠ .close queue) → Keeps I (call c respond))
    (renew : ∀ past w handles breaker, I past w →
      I past { w with pool := { w.pool with handles, breaker } }) : b.Moves I where
  hold queue := by
    have steps : b.Steps (Upheld I) := by
      refine steps_of_calls (composes_upheld I) (fun c respond use => ?_)
        fun s handles breaker past holds => ?_
      · refine keeps_iff_spans.mp (asking c respond ?_)
        rintro queue rfl
        cases use
      · rw [brokerCalls_nil, List.append_nil]
        exact renew past s.outside handles breaker holds
    exact keeps_iff_spans.mpr (steps.hold queue)
  jobCounts queue := asking (.jobCounts queue) _ fun _ => nofun
  workers queue := asking (.workers queue) _ fun _ => nofun
  activeCount queue := asking (.activeCount queue) _ fun _ => nofun
  breaker past w := renew past w w.pool.handles

namespace Moves

variable {b : QueueBackend β} {I : List BrokerCall → Service β → Prop}

theorem steps (moves : b.Moves I) : b.Steps (Upheld I) where
  hold queue := keeps_iff_spans.mp (moves.hold queue)
  jobCounts queue := keeps_iff_spans.mp (moves.jobCounts queue)
  workers queue := keeps_iff_spans.mp (moves.workers queue)
  activeCount queue := keeps_iff_spans.mp (moves.activeCount queue)
  breaker s breaker past holds := by
    rw [brokerCalls_nil, List.append_nil]
    exact moves.breaker past s.outside breaker holds

theorem holdAll (moves : b.Moves I) (queues : List String) : Keeps I (b.holdAll queues) :=
  keeps_iff_spans.mpr (moves.steps.holdAll (composes_upheld I) queues)

theorem guides (moves : b.Moves I) : b.backend.Guides (Upheld I) :=
  moves.steps.guides (composes_upheld I)

/-- What the moves keep, every use of the backend keeps. -/
theorem upholds (moves : b.Moves I) : b.backend.Upholds I where
  watchQueues queues := keeps_iff_spans.mpr (moves.guides.watchQueues queues)
  queueStatus queues := keeps_iff_spans.mpr (moves.guides.queueStatus queues)
  activeQueues := keeps_iff_spans.mpr moves.guides.activeQueues
  workerIdentifiers := keeps_iff_spans.mpr moves.guides.workerIdentifiers
  workersProcessing queues := keeps_iff_spans.mpr (moves.guides.workersProcessing queues)

theorem watch (moves : b.Moves I) (queues : List String) : Keeps I (b.watch queues) :=
  moves.upholds.watchQueues queues

end Moves

/-! ## Setting up -/

theorem broker_of_create {broker : Broker β} {c : Config} {logger : Log.Logger} {own : Bool}
    {s : Session (Service β)} {b : QueueBackend β}
    (built : (create broker c logger own s).outcome = .returned b) : b.broker = broker := by
  obtain ⟨_, _, built, _⟩ := returned_of_bind built
  obtain ⟨_, _, built, _⟩ := returned_of_bind built
  cases built
  rfl

theorem broker_of_select {broker : Broker β} {c : Config} {logger : Log.Logger}
    {s : Session (Service β)} {b : QueueBackend β}
    (selected : (select broker c logger s).outcome = .returned b) : b.broker = broker := by
  rw [select] at selected
  by_cases known : Connection.filled c.type Backend.typeName = Backend.typeName
  · rw [if_pos known] at selected
    exact broker_of_create selected
  · rw [if_neg known] at selected
    cases selected

theorem quiet_watch_nil (b : QueueBackend β) : Quiet (b.watch []) := by
  refine quiet_pool.bind fun pool => ?_
  by_cases gone : pool.disposed = true
  · simp only [if_pos gone]
    exact quiet_pure ()
  · simp only [if_neg gone]
    exact quiet_pure ()

theorem keeps_select {I : List BrokerCall → Service β → Prop} {c : Config}
    (renew : ∀ past w threshold timeoutMs, I past w →
      I past { w with pool := Pool.new threshold timeoutMs })
    (watch : ∀ b : QueueBackend β, Keeps I (b.watch c.queues)) (broker : Broker β)
    (logger : Log.Logger) : Keeps I (select broker c logger) := by
  rw [select]
  by_cases known : Connection.filled c.type Backend.typeName = Backend.typeName
  · simp only [if_pos known]
    exact (keeps_modifyPool fun past w => renew past w _ _).bind fun _ =>
      (watch _).bind fun _ => quiet_pure _ I
  · simp only [if_neg known]
    exact quiet_fail _ I

end QueueBackend

end JobWatch
