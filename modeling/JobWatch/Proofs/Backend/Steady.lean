import JobWatch.Proofs.Backend.Readings
import JobWatch.Proofs.Run.Ends

/-!
# Queries of a broker that does not change

Each query of a backend in service returns the reading that follows from the broker's answers,
keeps the backend in service, and adds the queues it was asked about to the known ones. The
broker may change in any way that its answers do not show, and may raise the caller's signal.
-/

namespace JobWatch

variable {β α : Type}

/-- The broker answers every call about its queues, and always the same. -/
structure Broker.Steady (b : Broker β) (a : Answers) : Prop where
  openHandle : ∀ queue w, (b.openHandle queue w).1.outcome = .ok ()
  jobCounts : ∀ queue w, (b.jobCounts queue w).1.outcome = .ok (a.sentCounts queue)
  workers : ∀ queue w, (b.workers queue w).1.outcome = .ok (a.clients queue)
  activeCount : ∀ queue w,
    (b.activeCount queue w).1.outcome = .ok (Binary64.ofNat (a.active queue))

/-- The broker that gives the answers, and has nothing to remember. -/
def Answers.broker (a : Answers) : Broker Unit :=
  let reply {α : Type} (answer : α) : Responder Unit α := fun w => (⟨.ok answer, false⟩, w)
  ⟨reply (), reply (), reply (), fun _ => reply (), fun queue => reply (a.sentCounts queue),
    fun queue => reply (a.clients queue), fun queue => reply (Binary64.ofNat (a.active queue)),
    fun _ => reply ()⟩

theorem Answers.steady_broker (a : Answers) : a.broker.Steady a :=
  ⟨fun _ _ => rfl, fun _ _ => rfl, fun _ _ => rfl, fun _ _ => rfl⟩

/-- The backend is not disposed of, its breaker is closed, and it has handles for `known`. -/
structure Serving (known : List String) (w : Service β) : Prop where
  undisposed : w.pool.disposed = false
  closed : w.pool.breaker.circuit = .closed
  handles : w.pool.handles = known

theorem Serving.not_disposed {known : List String} {w : Service β} (h : Serving known w) :
    ¬ w.pool.disposed = true := by
  simp [h.undisposed]

theorem Breaker.start?_of_closed {b : Breaker} (closed : b.circuit = .closed) (now : Nat) :
    b.start? now = some b.letThrough := by
  simp [start?, refuses, closed]

namespace Run

variable {known : List String} {fails : Thrown → Prop}

theorem ends_pool : Ends (fun s => Serving known s.outside) (pool : Run (Service β) Pool)
    (fun p s => p = s.outside.pool ∧ Serving known s.outside) fails :=
  ⟨fun _ raised => raised, fun _ serving _ => ⟨rfl, serving⟩⟩

theorem ends_modifyPool {pre post : Session (Service β) → Prop} {f : Pool → Pool}
    (h : ∀ s, pre s → post { s with outside := { s.outside with pool := f s.outside.pool } }) :
    Ends pre (modifyPool f : Run (Service β) Unit) (fun _ => post) fails :=
  ⟨fun _ raised => raised, fun s start _ => h s start⟩

/-- A call to the broker is answered, and leaves the pool alone. -/
theorem ends_call (c : BrokerCall) {respond : Responder β α} {a : α}
    (steady : ∀ w, (respond w).1.outcome = .ok a) :
    Ends (fun s => Serving known s.outside) (call c respond : Run (Service β) α)
      (fun r s => r = a ∧ Serving known s.outside) fails := by
  constructor
  · intro s raised
    by_cases aborts : (respond s.outside.broker).1.aborts = true <;>
      simp [call, ask, steady, aborts, Session.raise, Signal.raise, raised]
  · intro s serving _
    by_cases aborts : (respond s.outside.broker).1.aborts = true
    · simpa [call, ask, steady, aborts, Outcome.Meets, Session.raise] using
        ⟨serving.undisposed, serving.closed, serving.handles⟩
    · simpa [call, ask, steady, aborts, Outcome.Meets] using
        ⟨serving.undisposed, serving.closed, serving.handles⟩

end Run

namespace QueueBackend

open Run

variable {a : Answers} {known : List String} {fails : Thrown → Prop}

/-! ## Handles -/

/-- Asked for a handle, the backend has it from then on, at its place if it had it before. -/
theorem ends_hold (b : QueueBackend β) (steady : b.broker.Steady a) (queue : String) :
    Ends (fun s => Serving known s.outside) (b.hold queue)
      (fun _ s => Serving (remember known queue) s.outside) fails := by
  refine ends_pool.bind fun pool => ?_
  by_cases held : queue ∈ pool.handles
  · simp only [if_pos held]
    refine ends_pure ?_
    rintro s ⟨rfl, serving⟩
    rwa [remember, if_pos (serving.handles ▸ held)]
  · simp only [if_neg held]
    have opened : Ends (fun s => queue ∉ known ∧ Serving known s.outside) (do
        Run.call (.openHandle queue b.keyPrefix) (b.broker.openHandle queue)
        Run.modifyPool fun p => { p with handles := p.handles ++ [queue] })
        (fun _ s => Serving (remember known queue) s.outside) fails := by
      refine (ends_call _ (steady.openHandle queue)).frame.bind fun _ => ends_modifyPool ?_
      rintro s ⟨fresh, -, serving⟩
      refine ⟨serving.undisposed, serving.closed, ?_⟩
      rw [remember, if_neg fresh]
      exact congrArg (· ++ [queue]) serving.handles
    rw [← bind_assoc]
    refine Ends.bind (opened.of_pre ?_) fun _ => ends_log _ _ _ _
    rintro s ⟨rfl, serving⟩
    exact ⟨serving.handles ▸ held, serving⟩

theorem ends_holdAll (b : QueueBackend β) (steady : b.broker.Steady a) (queues : List String) :
    Ends (fun s => Serving known s.outside) (b.holdAll queues)
      (fun _ s => Serving (queues.foldl remember known) s.outside) fails := by
  induction queues generalizing known with
  | nil => exact ends_pure fun _ serving => serving
  | cons queue rest ih => exact (b.ends_hold steady queue).bind fun _ => ih

theorem ends_watch (b : QueueBackend β) (steady : b.broker.Steady a) (queues : List String) :
    Ends (fun s => Serving known s.outside) (b.watch queues)
      (fun _ s => Serving (queues.foldl remember known) s.outside) fails := by
  refine ends_pool.bind fun pool => ?_
  by_cases gone : pool.disposed = true
  · simp only [if_pos gone]
    refine ends_pure ?_
    rintro s ⟨rfl, serving⟩
    exact absurd gone serving.not_disposed
  · simp only [if_neg gone]
    exact (b.ends_holdAll steady queues).of_pre fun _ start => start.2

/-! ## Round trips -/

/-- A call that the breaker lets through leaves it closed. -/
theorem ends_start {pool : Pool} {breaker : Breaker} {now : Nat}
    (started : pool.breaker.start? now = some breaker) :
    Ends (fun s : Session (Service β) => pool = s.outside.pool ∧ Serving known s.outside)
      (modifyPool fun p => { p with breaker }) (fun _ s => Serving known s.outside) fails := by
  refine ends_modifyPool ?_
  rintro s ⟨rfl, serving⟩
  rw [Breaker.start?_of_closed serving.closed] at started
  cases started
  refine ⟨serving.undisposed, ?_, serving.handles⟩
  simp [Breaker.letThrough, serving.closed]

theorem ends_succeed :
    Ends (fun s : Session (Service β) => Serving known s.outside)
      (modifyPool fun p => { p with breaker := p.breaker.succeed })
      (fun _ s => Serving known s.outside) fails :=
  ends_modifyPool fun _ serving => ⟨serving.undisposed, rfl, serving.handles⟩

/-- What is done about a failure, where there are none. -/
theorem ends_afterFailure (b : QueueBackend β) (operation : String) (t : Thrown)
    {post : α → Session (Service β) → Prop} :
    Ends (fun _ => False) (do
      let now ← Run.now
      Run.modifyPool fun p => { p with breaker := p.breaker.fail now }
      if t.isOf .backendUnavailable then Run.throw t
      else
        b.logger.error (operation ++ " failed:") [.thrown t]
        Run.fail (outage operation t)) post fails := by
  have told : ∀ f, Ends (fun _ => False) (modifyPool f : Run (Service β) Unit) (fun _ _ => False)
      fails := fun _ => ends_modifyPool fun _ nothing => nothing
  refine ends_now.bind fun now => (told _).bind fun _ => ?_
  split
  · exact ends_throw fun _ nothing => nothing.elim
  · exact (ends_log _ _ _ _).bind fun _ => ends_throw fun _ nothing => nothing.elim

/-- A round trip that cannot fail brings back what it brings back without the breaker, and the
breaker stays closed. -/
theorem ends_roundTrip (b : QueueBackend β) (operation : String) {trip : Run (Service β) α}
    {known' : List String} {good : α → Prop}
    (h : Ends (fun s => Serving known s.outside) trip
      (fun r s => good r ∧ Serving known' s.outside) never) :
    Ends (fun s => Serving known s.outside) (b.roundTrip operation trip)
      (fun r s => good r ∧ Serving known' s.outside) fails := by
  refine ends_pool.bind fun pool => ?_
  by_cases gone : pool.disposed = true
  · simp only [if_pos gone]
    refine ends_throw ?_
    rintro s ⟨rfl, serving⟩
    exact absurd gone serving.not_disposed
  · simp only [if_neg gone]
    refine ends_now.bind fun now => ?_
    cases started : pool.breaker.start? now with
    | none =>
      refine ends_throw ?_
      rintro s ⟨rfl, serving⟩
      rw [Breaker.start?_of_closed serving.closed] at started
      cases started
    | some breaker =>
      refine (ends_start started).bind fun _ => h.attempt.bind fun result => ?_
      cases result with
      | ok r =>
        refine (ends_succeed.frame.bind fun _ => ends_pure fun _ holds => holds).of_pre ?_
        rintro s ⟨r', same, isGood, serving⟩
        cases same
        exact ⟨isGood, serving⟩
      | error t =>
        refine (b.ends_afterFailure operation t).of_pre ?_
        rintro s ⟨_, wrong, _⟩
        cases wrong

/-! ## Queries -/

theorem ends_readStatus (b : QueueBackend β) (steady : b.broker.Steady a) (queue : String) :
    Ends (fun s => Serving known s.outside) (b.readStatus queue)
      (fun status s => status = a.status queue ∧ Serving (remember known queue) s.outside)
      fails := by
  refine (b.ends_hold steady queue).bind fun _ =>
    (ends_call _ (steady.jobCounts queue)).bind fun counts =>
      (ends_call _ (steady.workers queue)).frame.bind fun clients => ends_pure ?_
  rintro s ⟨rfl, rfl, serving⟩
  exact ⟨rfl, serving⟩

theorem ends_readStatuses (b : QueueBackend β) (steady : b.broker.Steady a) (m : StatusMap)
    (queues : List String) :
    Ends (fun s => Serving known s.outside) (b.readStatuses m queues)
      (fun m' s => m' = queues.foldl (fun m queue => m.file queue (a.status queue)) m ∧
        Serving (queues.foldl remember known) s.outside) fails := by
  induction queues generalizing known m with
  | nil => exact ends_pure fun _ serving => ⟨rfl, serving⟩
  | cons queue rest ih =>
    refine (b.ends_readStatus steady queue).bind fun status =>
      (ih (m.file queue status)).frame.of_post ?_
    rintro m' s ⟨rfl, read⟩
    exact read

theorem ends_queueStatus (b : QueueBackend β) (steady : b.broker.Steady a)
    (queues : List String) :
    Ends (fun s => Serving known s.outside) (b.backend.queueStatus queues)
      (fun statuses s => statuses = a.statuses queues ∧
        Serving (queues.foldl remember known) s.outside) fails :=
  b.ends_roundTrip _ (b.ends_readStatuses steady KeyedMap.empty queues)

theorem ends_readWorkers (b : QueueBackend β) (steady : b.broker.Steady a) (m : ActiveQueues)
    (workers queues : List String) :
    Ends (fun s => Serving known s.outside) (b.readWorkers m workers queues)
      (fun snapshot s => snapshot =
          ⟨some ((a.attended queues).foldl (fun m queue => m.file queue (a.identifiers queue)) m),
            (a.attended queues).foldl (fun seen queue => (a.identifiers queue).foldl remember seen)
              workers⟩ ∧
        Serving known s.outside) fails := by
  induction queues generalizing m workers with
  | nil => exact ends_pure fun _ serving => ⟨rfl, serving⟩
  | cons queue rest ih =>
    refine (ends_call _ (steady.workers queue)).bind fun clients => ?_
    by_cases deserted : clients.isEmpty = true
    · simp only [if_pos deserted]
      refine (ih m workers).frame.of_post ?_
      rintro snapshot s ⟨rfl, read⟩
      simpa [Answers.attended, deserted] using read
    · simp only [if_neg deserted]
      refine (ih _ _).frame.of_post ?_
      rintro snapshot s ⟨rfl, read⟩
      simpa [Answers.attended, Answers.identifiers, deserted] using read

theorem ends_activeQueues (b : QueueBackend β) (steady : b.broker.Steady a) :
    Ends (fun s => Serving known s.outside) b.backend.activeQueues
      (fun snapshot s => snapshot = a.snapshot known ∧ Serving known s.outside) fails := by
  refine b.ends_roundTrip _ (ends_pool.bind fun pool => ?_)
  have reading : Ends (fun s => pool.handles = known ∧ Serving known s.outside)
      (b.readWorkers KeyedMap.empty [] pool.handles)
      (fun snapshot s => snapshot = a.snapshot known ∧ Serving known s.outside) never := by
    refine (b.ends_readWorkers steady _ _ pool.handles).frame.of_post ?_
    rintro snapshot s ⟨rfl, read⟩
    exact read
  refine reading.of_pre ?_
  rintro s ⟨rfl, serving⟩
  exact ⟨serving.handles, serving⟩

theorem ends_workerIdentifiers (b : QueueBackend β) (steady : b.broker.Steady a) :
    Ends (fun s => Serving known s.outside) b.backend.workerIdentifiers
      (fun workers s => workers = (a.snapshot known).workers ∧ Serving known s.outside) fails := by
  refine (b.ends_activeQueues steady).bind fun snapshot => ends_pure ?_
  rintro s ⟨rfl, serving⟩
  exact ⟨rfl, serving⟩

/-- Of queues that are known, one is reported if a worker is busy on it. -/
theorem ends_anyProcessing (b : QueueBackend β) (steady : b.broker.Steady a)
    {queues : List String} (sub : ∀ queue ∈ queues, queue ∈ known) :
    Ends (fun s => Serving known s.outside) (b.anyProcessing queues)
      (fun busy s => (busy = true ↔ ∃ queue ∈ queues, 0 < a.active queue) ∧
        Serving known s.outside) fails := by
  induction queues with
  | nil => exact ends_pure fun _ serving => ⟨by simp, serving⟩
  | cons queue rest ih =>
    have held : remember known queue = known := if_pos (sub queue List.mem_cons_self)
    have first : Ends (fun s => Serving known s.outside) (b.hold queue)
        (fun _ s => Serving known s.outside) fails :=
      (b.ends_hold steady queue).of_post fun _ _ serving => held ▸ serving
    refine first.bind fun _ => (ends_call _ (steady.activeCount queue)).bind fun active => ?_
    by_cases busy : active.isPositive = true
    · simp only [if_pos busy]
      refine (ends_log _ _ _ _).bind fun _ => ends_pure ?_
      rintro s ⟨told, serving⟩
      rw [told] at busy
      have pos : 0 < a.active queue := Binary64.isPositive_ofNat.mp busy
      exact ⟨by simp only [List.mem_cons, exists_eq_or_imp, pos, true_or], serving⟩
    · simp only [if_neg busy]
      refine (ih fun queue listed => sub queue (List.mem_cons_of_mem _ listed)).frame.of_post ?_
      rintro found s ⟨told, answer, serving⟩
      rw [told] at busy
      refine ⟨answer.trans ?_, serving⟩
      have idle : ¬ 0 < a.active queue := fun pos => busy (Binary64.isPositive_ofNat.mpr pos)
      simp only [List.mem_cons, exists_eq_or_imp, idle, false_or]

theorem ends_workersProcessing (b : QueueBackend β) (steady : b.broker.Steady a)
    {queues : List String} (sub : ∀ queue ∈ queues, queue ∈ known) :
    Ends (fun s => Serving known s.outside) (b.backend.workersProcessing queues)
      (fun busy s => (busy = true ↔ ∃ queue ∈ queues, 0 < a.active queue) ∧
        Serving known s.outside) fails :=
  b.ends_roundTrip _ (b.ends_anyProcessing steady sub)

end QueueBackend

end JobWatch
