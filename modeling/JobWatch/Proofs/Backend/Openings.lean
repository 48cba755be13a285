import JobWatch.Proofs.Backend.Statuses

/-!
# Which handles are opened when

A backend opens a handle where it first needs one: while it reads the backlog of some queues, or
when it is told to watch some. Which calls that makes is decided by the queues and by the handles
that are held before. Only the first of them is made under the breaker. What the calls are
answered is left open, and so is what becomes of a handle later.
-/

namespace JobWatch

variable {β : Type}

namespace QueueBackend

open Run

/-- The handles that are opened to hold some queues. -/
def openings (b : QueueBackend β) (held queues : List String) : List BrokerCall :=
  (unheld held queues).map fun queue => .openHandle queue b.keyPrefix

/-- The calls by which the backlog of some queues is read. -/
def readingCalls (b : QueueBackend β) : List String → List String → List BrokerCall
  | _, [] => []
  | held, queue :: rest =>
    b.openings held [queue] ++ [.jobCounts queue, .workers queue] ++
      b.readingCalls (remember held queue) rest

variable {b : QueueBackend β} {s : Session (Service β)}

/-- Queues that are all held already need no handle. -/
theorem openings_eq_nil {held queues : List String} (all : ∀ queue ∈ queues, queue ∈ held) :
    b.openings held queues = [] := by
  have none : unheld held queues = [] := by
    induction queues with
    | nil => rfl
    | cons queue rest ih =>
      rw [unheld, if_pos (all queue List.mem_cons_self)]
      exact ih fun other later => all other (List.mem_cons_of_mem _ later)
  rw [openings, none, List.map_nil]

/-! ## Reading the backlog -/

theorem follows_readStatus (b : QueueBackend β) (queue : String) (s : Session (Service β)) :
    Follows b.broker
      (b.openings s.outside.pool.handles [queue] ++ [.jobCounts queue, .workers queue])
      (b.readStatus queue) s := by
  have held : Follows b.broker (b.openings s.outside.pool.handles [queue]) (b.hold queue) s := by
    refine (b.follows_holdAll [queue] s).of_eq ?_ rfl
    exact congrFun (bind_pure_unit (x := b.hold queue)).symm s
  have counted (s' : Session (Service β)) : Follows b.broker [.jobCounts queue]
      (call (.jobCounts queue) (b.broker.jobCounts queue)) s' := follows_call rfl
  have listed (s' : Session (Service β)) : Follows b.broker [.workers queue]
      (call (.workers queue) (b.broker.workers queue)) s' := follows_call rfl
  have summed (status : QueueStatus) (s' : Session (Service β)) :
      Follows b.broker [] (pure status) s' := follows_nothing rfl rfl rfl
  exact held.bind fun _ _ => (counted _).bind fun counts _ =>
    (listed _).bind fun clients _ => summed _ _

theorem handles_readStatus {queue : String} {status : QueueStatus}
    (came : (b.readStatus queue s).outcome = .returned status) :
    (b.readStatus queue s).session.outside.pool.handles =
      remember s.outside.pool.handles queue := by
  obtain ⟨held, done⟩ := outside_readStatus came
  rw [done]
  exact handles_hold held

/-- The calls of a reading depend on nothing but the queues and the handles held before. -/
theorem follows_readStatuses (b : QueueBackend β) (m : StatusMap) (queues : List String)
    (s : Session (Service β)) :
    Follows b.broker (b.readingCalls s.outside.pool.handles queues) (b.readStatuses m queues) s := by
  induction queues generalizing m s with
  | nil => exact follows_nothing rfl rfl rfl
  | cons queue rest ih =>
    refine (b.follows_readStatus queue s).bind fun status came => ?_
    rw [← handles_readStatus came]
    exact ih _ _

/-- A reading that is made to the end holds a handle of every queue it was asked about. -/
theorem handles_readStatuses {m m' : StatusMap} {queues : List String}
    (came : (b.readStatuses m queues s).outcome = .returned m') :
    (b.readStatuses m queues s).session.outside.pool.handles =
      queues.foldl remember s.outside.pool.handles := by
  induction queues generalizing m s with
  | nil => rfl
  | cons queue rest ih =>
    obtain ⟨status, read, came, after⟩ := returned_of_bind came
    rw [readStatuses, after, ih came, handles_readStatus read]
    rfl

/-- The backlog has been read: the trip was let through, all its calls went through, and from then
on the queues are held. -/
structure HasRead (b : QueueBackend β) (queues : List String) (s s' : Session (Service β)) :
    Prop where
  admitted : s.outside.pool.Admits s.now
  answered : b.broker.allPass s.outside.broker
    (b.readingCalls s.outside.pool.handles queues) = true
  used : s'.outside.pool.disposed = false
  handles : s'.outside.pool.handles = queues.foldl remember s.outside.pool.handles
  broker : s'.outside.broker =
    b.broker.after s.outside.broker (b.readingCalls s.outside.pool.handles queues)

theorem admits_of_returned {α : Type} {operation : String} {trip : Run (Service β) α} {a : α}
    (came : (b.roundTrip operation trip s).outcome = .returned a) :
    s.outside.pool.Admits s.now := by
  cases used : s.outside.pool.disposed with
  | true =>
    rw [roundTrip_of_disposed used] at came
    cases came
  | false =>
    cases refuses : s.outside.pool.breaker.refuses s.now with
    | true =>
      have refused : s.outside.pool.breaker.start? s.now = none := by
        rw [Breaker.start?, if_pos refuses]
      rw [roundTrip_of_refused used refused] at came
      cases came
    | false => exact ⟨used, refuses⟩

/-- A round trip that returns has been let through, and changes nothing that its trip has left but
the breaker. -/
theorem roundTrip_returned {α : Type} {operation : String} {trip : Run (Service β) α} {a : α}
    (came : (b.roundTrip operation trip s).outcome = .returned a) :
    let begun : Session (Service β) := { s with outside := { s.outside with pool :=
      { s.outside.pool with breaker := s.outside.pool.breaker.letThrough } } }
    (trip begun).outcome = .returned a ∧
      (b.roundTrip operation trip s).session.outside.broker =
        (trip begun).session.outside.broker ∧
      (b.roundTrip operation trip s).session.outside.pool.handles =
        (trip begun).session.outside.pool.handles := by
  intro begun
  have admitted := admits_of_returned came
  rw [roundTrip_of_started admitted.1 admitted.starts] at came ⊢
  change ((do b.settle operation (← trip.attempt)) begun).outcome = .returned a at came
  cases tripped : (trip begun).outcome with
  | returned a' =>
    have settled := b.settle_of_returned tripped operation
    rw [settled] at came
    cases came
    exact ⟨rfl, congrArg (·.session.outside.broker) settled,
      congrArg (·.session.outside.pool.handles) settled⟩
  | threw t => cases (b.settle_of_threw tripped operation).1.symm.trans came
  | unfinished =>
    rw [bind_unfinished (attempt_unfinished tripped)] at came
    cases came

theorem hasRead_of_returned {queues : List String} {m : StatusMap}
    (came : (b.backend.queueStatus queues s).outcome = .returned m) :
    b.HasRead queues s (b.backend.queueStatus queues s).session := by
  have admitted := admits_of_returned came
  obtain ⟨read, broker, handles⟩ := roundTrip_returned came
  have follows := b.follows_readStatuses KeyedMap.empty queues { s with
    outside := { s.outside with pool :=
      { s.outside.pool with breaker := s.outside.pool.breaker.letThrough } } }
  have answered : b.broker.allPass s.outside.broker
      (b.readingCalls s.outside.pool.handles queues) = true := by
    refine eq_true_of_ne_false fun stopped => ?_
    obtain ⟨t, threw⟩ := follows.throws stopped
    cases read.symm.trans threw
  refine ⟨admitted, answered, ?_, ?_, ?_⟩
  · exact b.moves_inUse.upholds.queueStatus queues [] s admitted.1
  · exact handles.trans (handles_readStatuses read)
  · refine broker.trans (follows.broker.trans ?_)
    exact congrArg (b.broker.after s.outside.broker ·) (Broker.upToFailure_of_allPass answered)

/-- A trip that is let through and whose calls all go through comes to a reading. -/
theorem queueStatus_of_answered {queues : List String} (admitted : s.outside.pool.Admits s.now)
    (answered : b.broker.allPass s.outside.broker
      (b.readingCalls s.outside.pool.handles queues) = true) :
    ∃ m, (b.backend.queueStatus queues s).outcome = .returned m := by
  obtain ⟨m, came⟩ := (b.follows_readStatuses KeyedMap.empty queues { s with
    outside := { s.outside with pool :=
      { s.outside.pool with breaker := s.outside.pool.breaker.letThrough } } }).returns answered
  exact ⟨m, roundTrip_of_returned admitted "queryQueueStatus" came⟩

/-! ## Watching -/

/-- Told to watch some queues, a backend in use throws what the first call to open a missing handle
has thrown that fails, and returns if there is none. -/
theorem watch_threw_iff (used : s.outside.pool.disposed = false) {queues : List String}
    {t : Thrown} :
    (b.watch queues s).outcome = .threw t ↔
      b.broker.firstFault? s.outside.broker (b.openings s.outside.pool.handles queues) =
        some t := by
  rw [watch_of_used used]
  exact (b.follows_holdAll queues s).threw_iff (b.stopsAtFault_holdAll queues)

end QueueBackend

end JobWatch
