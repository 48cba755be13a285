import JobWatch.Proofs.Backend.Turns
import JobWatch.Proofs.Run.Comes
import JobWatch.Script

/-!
# What a query comes to

A query of a backend over queues makes its calls to the broker one after the other and ends with
the first that fails. What that call has thrown is passed on or wrapped, and the breaker is told
once. Here this is shown of every query at every turn, whatever the turns before have done to the
breaker. Nothing is said about what a query that resolves answers.
-/

namespace JobWatch

variable {β α γ : Type}

namespace Broker

/-- What a responder throws when it is asked, if it throws. -/
def thrownBy (respond : Responder β α) (w : β) : Option Thrown :=
  match (respond w).1.outcome with
  | .ok _ => none
  | .error t => some t

/-- What a call fails with, if it fails. -/
def fault? (b : Broker β) (w : β) : BrokerCall → Option Thrown
  | .construct _ => none
  | .disconnect => none
  | .connect => thrownBy b.connect w
  | .ping => thrownBy b.ping w
  | .quit => thrownBy b.quit w
  | .openHandle queue _ => thrownBy (b.openHandle queue) w
  | .jobCounts queue => thrownBy (b.jobCounts queue) w
  | .workers queue => thrownBy (b.workers queue) w
  | .activeCount queue => thrownBy (b.activeCount queue) w
  | .close queue => thrownBy (b.close queue) w

theorem isOk_eq_isNone_thrownBy (respond : Responder β α) (w : β) :
    (told respond w).1 = (thrownBy respond w).isNone := by
  rw [told, thrownBy]
  cases (respond w).1.outcome <;> rfl

/-- A call goes through exactly if there is nothing that it fails with. -/
theorem passes_eq_isNone_fault? (b : Broker β) (w : β) (call : BrokerCall) :
    b.passes w call = (b.fault? w call).isNone := by
  cases call with
  | construct options => rfl
  | disconnect => rfl
  | _ => exact isOk_eq_isNone_thrownBy _ w

/-- The last of the calls fails with `t`, and those before it go through. -/
def BreaksOff (b : Broker β) (w : β) (calls : List BrokerCall) (t : Thrown) : Prop :=
  ∃ earlier last, calls = earlier ++ [last] ∧ b.allPass w earlier = true ∧
    b.fault? (b.after w earlier) last = some t

theorem BreaksOff.append_left {b : Broker β} {w : β} {xs ys : List BrokerCall} {t : Thrown}
    (pass : b.allPass w xs = true) (h : b.BreaksOff (b.after w xs) ys t) :
    b.BreaksOff w (xs ++ ys) t := by
  obtain ⟨earlier, last, rfl, passed, failed⟩ := h
  refine ⟨xs ++ earlier, last, (List.append_assoc _ _ _).symm, ?_, ?_⟩
  · rw [allPass_append, pass, passed, Bool.and_self]
  · rw [after_append]
    exact failed

/-- What the first call of a list to fail fails with, if one of them fails. -/
def firstFault? (b : Broker β) : β → List BrokerCall → Option Thrown
  | _, [] => none
  | w, call :: rest => (b.fault? w call).or (b.firstFault? (b.next w call) rest)

theorem firstFault?_append (b : Broker β) (w : β) (xs ys : List BrokerCall) :
    b.firstFault? w (xs ++ ys) = (b.firstFault? w xs).or (b.firstFault? (b.after w xs) ys) := by
  induction xs generalizing w with
  | nil => rfl
  | cons call rest ih =>
    rw [List.cons_append, firstFault?, firstFault?, ih, Option.or_assoc]
    rfl

theorem allPass_eq_isNone_firstFault? (b : Broker β) (w : β) (calls : List BrokerCall) :
    b.allPass w calls = (b.firstFault? w calls).isNone := by
  induction calls generalizing w with
  | nil => rfl
  | cons call rest ih =>
    rw [allPass_cons, passes_eq_isNone_fault?, ih, firstFault?]
    cases b.fault? w call <;> rfl

theorem firstFault?_upToFailure (b : Broker β) (w : β) (calls : List BrokerCall) :
    b.firstFault? w (b.upToFailure w calls) = b.firstFault? w calls := by
  induction calls generalizing w with
  | nil => rfl
  | cons call rest ih =>
    rw [upToFailure, firstFault?, firstFault?, passes_eq_isNone_fault?]
    cases b.fault? w call with
    | none => exact ih (b.next w call)
    | some t => rfl

theorem BreaksOff.firstFault? {b : Broker β} {w : β} {calls : List BrokerCall} {t : Thrown}
    (broke : b.BreaksOff w calls t) : b.firstFault? w calls = some t := by
  obtain ⟨earlier, last, rfl, passed, failed⟩ := broke
  rw [allPass_eq_isNone_firstFault?, Option.isNone_iff_eq_none] at passed
  rw [firstFault?_append, passed, Option.none_or, Broker.firstFault?, failed]
  rfl

theorem BreaksOff.allPass {b : Broker β} {w : β} {calls : List BrokerCall} {t : Thrown}
    (broke : b.BreaksOff w calls t) : b.allPass w calls = false := by
  rw [allPass_eq_isNone_firstFault?, broke.firstFault?, Option.isNone_some]

end Broker

namespace Run

/-- A run makes calls to the broker up to the first that fails, throws what that call has thrown
and nothing else, and leaves the breaker alone. -/
structure StopsAtFault (b : Broker β) (x : Run (Service β) α) (s : Session (Service β)) :
    Prop where
  broker : (x s).session.outside.broker =
    b.after s.outside.broker (brokerCalls (x s).events)
  breaker : (x s).session.outside.pool.breaker = s.outside.pool.breaker
  ends : (x s).outcome.Meets
    (fun _ => b.allPass s.outside.broker (brokerCalls (x s).events) = true)
    (b.BreaksOff s.outside.broker (brokerCalls (x s).events))

variable {b : Broker β} {x : Run (Service β) α} {f : α → Run (Service β) γ}
  {s : Session (Service β)}

theorem StopsAtFault.concludes (stops : ∀ s, StopsAtFault b x s) : Concludes x := by
  refine concludes_of_ne fun s cut => ?_
  have ends := (stops s).ends
  rw [cut] at ends
  exact ends

/-- A run that calls nobody and returns has no fault to stop at. -/
theorem stopsAtFault_silent {a : α} (returned : (x s).outcome = .returned a)
    (silent : brokerCalls (x s).events = [])
    (broker : (x s).session.outside.broker = s.outside.broker)
    (breaker : (x s).session.outside.pool.breaker = s.outside.pool.breaker) :
    StopsAtFault b x s := by
  refine ⟨?_, breaker, ?_⟩
  · rw [silent]
    exact broker
  · rw [returned, silent]
    rfl

theorem StopsAtFault.of_eq {y : Run (Service β) α} (hx : StopsAtFault b x s)
    (same : y s = x s) : StopsAtFault b y s :=
  ⟨same ▸ hx.broker, same ▸ hx.breaker, same ▸ hx.ends⟩

theorem stopsAtFault_pure (a : α) : StopsAtFault b (pure a) s :=
  stopsAtFault_silent rfl rfl rfl rfl

theorem stopsAtFault_log (l : Log.Logger) (level : Log.Level) (message : String)
    (details : List Detail) : StopsAtFault b (l.log level message details) s := by
  have quiet : Quiet (l.log level message details : Run (Service β) Unit) := quiet_log
  refine stopsAtFault_silent (log_returned s) (quiet.calls s) ?_ ?_
  · rw [quiet.outside]
  · rw [quiet.outside]

theorem stopsAtFault_call {c : BrokerCall} {respond : Responder β α}
    (asks : ∀ w, b.answer w c = Broker.told respond w)
    (throws : ∀ w, b.fault? w c = Broker.thrownBy respond w) :
    StopsAtFault b (call c respond) s := by
  have one : brokerCalls (call c respond s).events = [c] := by
    rw [call_events]
    rfl
  have fault : b.fault? s.outside.broker c = Broker.thrownBy respond s.outside.broker := throws _
  refine ⟨?_, ?_, ?_⟩
  · rw [one, call_outside]
    exact (congrArg Prod.snd (asks s.outside.broker)).symm
  · rw [call_outside]
  · rw [one]
    cases came : (respond s.outside.broker).1.outcome with
    | ok a =>
      rw [call_returned came]
      have passes : b.passes s.outside.broker c = true := by
        rw [Broker.passes_eq_isNone_fault?, fault, Broker.thrownBy, came]
        rfl
      exact (b.allPass_singleton _ c).trans passes
    | error t =>
      rw [call_threw came]
      refine ⟨[], c, rfl, rfl, ?_⟩
      exact fault.trans (by rw [Broker.thrownBy, came])

theorem StopsAtFault.bind (hx : StopsAtFault b x s)
    (hf : ∀ a, (x s).outcome = .returned a → StopsAtFault b (f a) (x s).session) :
    StopsAtFault b (x >>= f) s := by
  obtain ⟨broker, breaker, ends⟩ := hx
  cases came : (x s).outcome with
  | returned a =>
    rw [came] at ends
    have pass : b.allPass s.outside.broker (brokerCalls (x s).events) = true := ends
    obtain ⟨broker', breaker', ends'⟩ := hf a came
    -- the second part finds the broker as the calls of the first have left it
    rw [broker] at broker' ends'
    refine ⟨?_, ?_, ?_⟩
    · rw [bind_returned came, brokerCalls_append, Broker.after_append]
      exact broker'
    · rw [bind_returned came]
      exact breaker'.trans breaker
    · rw [bind_returned came, brokerCalls_append]
      refine ends'.imp (fun _ pass' => ?_) fun _ broke => broke.append_left pass
      rw [Broker.allPass_append, pass, pass', Bool.and_self]
  | threw t =>
    rw [came] at ends
    refine ⟨?_, ?_, ?_⟩ <;> rw [bind_threw came]
    · exact broker
    · exact breaker
    · exact ends
  | unfinished =>
    rw [came] at ends
    exact ends.elim

/-- A run along a list of calls that throws nothing but what a call has thrown comes to what the
first call to fail has thrown. -/
theorem Follows.outcome {calls : List BrokerCall} (follows : Follows b calls x s)
    (stops : StopsAtFault b x s) :
    (b.firstFault? s.outside.broker calls = none → ∃ a, (x s).outcome = .returned a) ∧
      ∀ t, b.firstFault? s.outside.broker calls = some t → (x s).outcome = .threw t := by
  have pass := b.allPass_eq_isNone_firstFault? s.outside.broker calls
  constructor
  · intro none
    exact follows.returns (by rw [pass, none]; rfl)
  · intro t first
    obtain ⟨t', came⟩ := follows.throws (by rw [pass, first]; rfl)
    have broke := stops.ends
    rw [came, follows.made] at broke
    have same := Broker.BreaksOff.firstFault? broke
    rw [Broker.firstFault?_upToFailure, first] at same
    rw [came, Option.some.inj same]

theorem Follows.threw_iff {calls : List BrokerCall} (follows : Follows b calls x s)
    (stops : StopsAtFault b x s) {t : Thrown} :
    (x s).outcome = .threw t ↔ b.firstFault? s.outside.broker calls = some t := by
  obtain ⟨returns, throws⟩ := follows.outcome stops
  constructor
  · intro threw
    cases first : b.firstFault? s.outside.broker calls with
    | none =>
      obtain ⟨a, came⟩ := returns first
      cases came.symm.trans threw
    | some t' =>
      cases (throws t' first).symm.trans threw
      rfl
  · exact throws t

end Run

namespace QueueBackend

open Run

variable {b : QueueBackend β} {s : Session (Service β)}

/-! ## Trips -/

theorem stopsAtFault_hold (queue : String) : StopsAtFault b.broker (b.hold queue) s := by
  by_cases held : queue ∈ s.outside.pool.handles
  · have idle := hold_of_held (b := b) held
    refine stopsAtFault_silent (a := ()) ?_ ?_ ?_ ?_ <;> rw [idle]
    rfl
  · have opened : StopsAtFault b.broker (do
        call (.openHandle queue b.keyPrefix) (b.broker.openHandle queue)
        modifyPool fun p => { p with handles := p.handles ++ [queue] }
        b.logger.debug ("Watching BullMQ queue: " ++ queue) []) s := by
      refine (stopsAtFault_call (fun _ => rfl) fun _ => rfl).bind fun _ _ => ?_
      have kept : StopsAtFault b.broker
          (modifyPool fun p => { p with handles := p.handles ++ [queue] })
          (call (.openHandle queue b.keyPrefix) (b.broker.openHandle queue) s).session :=
        stopsAtFault_silent (a := ()) rfl rfl rfl rfl
      exact kept.bind fun _ _ => stopsAtFault_log _ _ _ _
    exact opened.of_eq (by rw [hold, pool_bind, if_neg held])

theorem stopsAtFault_holdAll (queues : List String) :
    StopsAtFault b.broker (b.holdAll queues) s := by
  induction queues generalizing s with
  | nil => exact stopsAtFault_pure ()
  | cons queue rest ih => exact (stopsAtFault_hold queue).bind fun _ _ => ih

theorem stopsAtFault_readStatuses (m : StatusMap) (queues : List String) :
    StopsAtFault b.broker (b.readStatuses m queues) s := by
  induction queues generalizing m s with
  | nil => exact stopsAtFault_pure m
  | cons queue rest ih =>
    have one : StopsAtFault b.broker (b.readStatus queue) s :=
      (stopsAtFault_hold queue).bind fun _ _ =>
        (stopsAtFault_call (c := .jobCounts queue) (fun _ => rfl) fun _ => rfl).bind fun _ _ =>
          (stopsAtFault_call (c := .workers queue) (fun _ => rfl) fun _ => rfl).bind fun _ _ =>
            stopsAtFault_pure _
    exact one.bind fun status _ => ih (m.file queue status)

theorem stopsAtFault_readWorkers (m : ActiveQueues) (workers queues : List String) :
    StopsAtFault b.broker (b.readWorkers m workers queues) s := by
  induction queues generalizing m workers s with
  | nil => exact stopsAtFault_pure _
  | cons queue rest ih =>
    refine (stopsAtFault_call (c := .workers queue) (fun _ => rfl) fun _ => rfl).bind
      fun clients _ => ?_
    by_cases deserted : clients.isEmpty = true
    · simp only [if_pos deserted]
      exact ih m workers
    · simp only [if_neg deserted]
      exact ih _ _

theorem stopsAtFault_active : StopsAtFault b.broker (do
    b.readWorkers KeyedMap.empty [] (← Run.pool).handles) s := by
  have looked : StopsAtFault b.broker Run.pool s := stopsAtFault_silent rfl rfl rfl rfl
  exact looked.bind fun pool _ => stopsAtFault_readWorkers _ _ _

theorem stopsAtFault_anyProcessing (queues : List String) :
    StopsAtFault b.broker (b.anyProcessing queues) s := by
  induction queues generalizing s with
  | nil => exact stopsAtFault_pure false
  | cons queue rest ih =>
    refine (stopsAtFault_hold queue).bind fun _ _ =>
      (stopsAtFault_call (c := .activeCount queue) (fun _ => rfl) fun _ => rfl).bind
        fun active _ => ?_
    by_cases busy : active.isPositive = true
    · simp only [if_pos busy]
      exact (stopsAtFault_log _ _ _ _).bind fun _ _ => stopsAtFault_pure true
    · simp only [if_neg busy]
      exact ih

/-! ## Under the breaker -/

/-- What the one who asks hears of a failure. -/
def reported (operation : String) (t : Thrown) : Thrown :=
  if t.isOf .backendUnavailable then t else .failure (outage operation t)

theorem settle_error (operation : String) (t : Thrown) :
    (b.settle operation (.error t : Except Thrown α) s).outcome = .threw (reported operation t) ∧
      brokerCalls (b.settle operation (.error t : Except Thrown α) s).events = [] ∧
      (b.settle operation (.error t : Except Thrown α) s).session.outside =
        { s.outside with pool :=
          { s.outside.pool with breaker := s.outside.pool.breaker.fail s.now } } := by
  let told : Session (Service β) := { s with outside := { s.outside with pool :=
    { s.outside.pool with breaker := s.outside.pool.breaker.fail s.now } } }
  by_cases known : t.isOf .backendUnavailable = true
  · have passedOn : b.settle operation (.error t : Except Thrown α) s = ⟨.threw t, [], told⟩ := by
      rw [settle, now_bind, modifyPool_bind, if_pos known]
      rfl
    rw [passedOn, reported, if_pos known]
    exact ⟨rfl, rfl, rfl⟩
  · let line : Run (Service β) Unit := b.logger.error (operation ++ " failed:") [.thrown t]
    have quiet : Quiet line := quiet_log
    have wrapped : b.settle operation (.error t : Except Thrown α) s =
        ⟨.threw (.failure (outage operation t)), (line told).events ++ [],
          (line told).session⟩ := by
      have returned : (line told).outcome = .returned () := log_returned told
      rw [settle, now_bind, modifyPool_bind, if_neg known]
      exact bind_returned returned
    rw [wrapped, reported, if_neg known, List.append_nil]
    exact ⟨rfl, quiet.calls told, quiet.outside told⟩

/-- What is reported is a failure of the backend: the one thrown, or one that is caused by it. -/
theorem reported_cases (operation : String) (t : Thrown) :
    ∃ f, reported operation t = .failure f ∧ f.isOf .backendUnavailable = true ∧
      (t.isOf .backendUnavailable = true → t = .failure f) ∧
      (t.isOf .backendUnavailable = false → f = outage operation t ∧ f.cause? = t.failure?) := by
  cases known : t.isOf .backendUnavailable with
  | true =>
    rw [reported, if_pos known]
    cases t with
    | value v => cases known
    | failure f => exact ⟨f, rfl, known, fun _ => rfl, nofun⟩
  | false =>
    rw [reported, if_neg (by simp [known])]
    exact ⟨outage operation t, rfl, rfl, nofun, fun _ => ⟨rfl, rfl⟩⟩

theorem settle_of_returned {trip : Run (Service β) α} {a : α}
    (came : (trip s).outcome = .returned a) (operation : String) :
    (do b.settle operation (← trip.attempt)) s =
      ⟨.returned a, (trip s).events, { (trip s).session with
        outside := { (trip s).session.outside with pool :=
          { (trip s).session.outside.pool with
            breaker := (trip s).session.outside.pool.breaker.succeed } } }⟩ := by
  rw [bind_returned (attempt_returned came), attempt_events, attempt_session]
  exact congrArg (Result.mk _ · _) (List.append_nil _)

theorem settle_of_threw {trip : Run (Service β) α} {t : Thrown}
    (came : (trip s).outcome = .threw t) (operation : String) :
    let r := (do b.settle operation (← trip.attempt)) s
    r.outcome = .threw (reported operation t) ∧
      brokerCalls r.events = brokerCalls (trip s).events ∧
      r.session.outside.pool.breaker =
        (trip s).session.outside.pool.breaker.fail (trip s).session.now := by
  obtain ⟨outcome, silent, outside⟩ :=
    b.settle_error (α := α) (s := (trip s).session) operation t
  rw [bind_returned (attempt_threw came), attempt_events, attempt_session]
  refine ⟨outcome, ?_, ?_⟩
  · rw [brokerCalls_append, silent, List.append_nil]
  · rw [outside]

/-- How a query ends that was asked of a backend in use. -/
inductive QueryEnd (b : QueueBackend β) (operation : String) (s : Session (Service β))
    (r : Result (Service β) α) : Prop where
  | resolved (admitted : s.outside.pool.breaker.refuses s.now = false)
      (came : ∃ a, r.outcome = .returned a)
      (passed : b.broker.allPass s.outside.broker (brokerCalls r.events) = true)
      (totalCalls : r.session.outside.pool.breaker.totalCalls =
        s.outside.pool.breaker.totalCalls + 1)
      (totalFailures : r.session.outside.pool.breaker.totalFailures =
        s.outside.pool.breaker.totalFailures)
      (inRow : r.session.outside.pool.breaker.consecutiveFailures = 0)
      (closed : r.session.outside.pool.breaker.circuit = .closed)
  /-- The breaker refuses, and nobody notices anything but the one who asks. -/
  | refused (refuses : s.outside.pool.breaker.refuses s.now = true)
      (came : r.outcome = .threw (.failure (.breakerOpen s.outside.pool.breaker.name)))
      (silent : brokerCalls r.events = [])
      (unchanged : r.session.outside = s.outside)
  /-- The last call has failed with `t`, and the query fails with `f`. -/
  | failed (t : Thrown) (f : Failure) (admitted : s.outside.pool.breaker.refuses s.now = false)
      (broke : b.broker.BreaksOff s.outside.broker (brokerCalls r.events) t)
      (came : r.outcome = .threw (.failure f))
      (unavailable : f.isOf .backendUnavailable = true)
      (passedOn : t.isOf .backendUnavailable = true → t = .failure f)
      (wrapped : t.isOf .backendUnavailable = false →
        f = outage operation t ∧ f.cause? = t.failure?)
      (totalCalls : r.session.outside.pool.breaker.totalCalls =
        s.outside.pool.breaker.totalCalls + 1)
      (totalFailures : r.session.outside.pool.breaker.totalFailures =
        s.outside.pool.breaker.totalFailures + 1)

/-- What is made of the answer does not matter to how the query has ended. -/
theorem QueryEnd.map {operation : String} {x : Run (Service β) α}
    (h : b.QueryEnd operation s (x s)) (g : α → γ) :
    b.QueryEnd operation s ((do return g (← x)) s) := by
  rw [map_apply]
  cases h with
  | resolved admitted came passed totalCalls totalFailures inRow closed =>
    obtain ⟨a, came⟩ := came
    exact .resolved admitted ⟨g a, congrArg (Outcome.map g) came⟩ passed totalCalls totalFailures
      inRow closed
  | refused refuses came silent unchanged =>
    exact .refused refuses (congrArg (Outcome.map g) came) silent unchanged
  | failed t f admitted broke came unavailable passedOn wrapped totalCalls totalFailures =>
    exact .failed t f admitted broke (congrArg (Outcome.map g) came) unavailable passedOn wrapped
      totalCalls totalFailures

theorem QueryEnd.concluded {operation : String} {r : Result (Service β) α}
    (h : b.QueryEnd operation s r) : r.outcome ≠ .unfinished := by
  cases h with
  | resolved _ came =>
    obtain ⟨a, came⟩ := came
    simp [came]
  | refused _ came => simp [came]
  | failed _ _ _ _ came => simp [came]

/-- A round trip whose trip stops at its first fault ends in one of three ways. -/
theorem roundTrip_ends (used : s.outside.pool.disposed = false) (operation : String)
    {trip : Run (Service β) α} (stops : ∀ s, StopsAtFault b.broker trip s) :
    b.QueryEnd operation s (b.roundTrip operation trip s) := by
  cases refuses : s.outside.pool.breaker.refuses s.now with
  | true =>
    have refused : s.outside.pool.breaker.start? s.now = none := by
      rw [Breaker.start?, if_pos refuses]
    rw [roundTrip_of_refused used refused]
    exact .refused refuses rfl rfl rfl
  | false =>
    have started : s.outside.pool.breaker.start? s.now =
        some s.outside.pool.breaker.letThrough := by
      rw [Breaker.start?, if_neg (by simp [refuses])]
    let begun : Session (Service β) := { s with outside := { s.outside with pool :=
      { s.outside.pool with breaker := s.outside.pool.breaker.letThrough } } }
    obtain ⟨_, breaker, ends⟩ := stops begun
    rw [roundTrip_of_started used started]
    change b.QueryEnd operation s ((do b.settle operation (← trip.attempt)) begun)
    cases came : (trip begun).outcome with
    | returned a =>
      rw [came] at ends
      have totalCalls := congrArg Breaker.totalCalls breaker
      have totalFailures := congrArg Breaker.totalFailures breaker
      rw [b.settle_of_returned came]
      exact .resolved refuses ⟨a, rfl⟩ ends totalCalls totalFailures rfl rfl
    | threw t =>
      rw [came] at ends
      obtain ⟨threw, calls, told⟩ := b.settle_of_threw came operation
      obtain ⟨f, named, unavailable, passedOn, wrapped⟩ := reported_cases operation t
      rw [breaker] at told
      have totalCalls := congrArg Breaker.totalCalls told
      have totalFailures := congrArg Breaker.totalFailures told
      exact .failed t f refuses (calls.symm ▸ ends) (named ▸ threw) unavailable passedOn wrapped
        totalCalls totalFailures
    | unfinished =>
      rw [came] at ends
      exact ends.elim

end QueueBackend

/-- The round trip by which a query is answered. -/
def BackendCall.operation? : BackendCall → Option String
  | queueStatus _ => some "queryQueueStatus"
  | activeQueues => some "queryActiveQueues"
  | workerIdentifiers => some "queryActiveQueues"
  | workersProcessing _ => some "queryWorkersProcessing"
  | watchQueues _ => none
  | dispose => none

namespace QueueBackend

open Run

variable {b : QueueBackend β} {s : Session (Service β)}

theorem perform_ends (used : s.outside.pool.disposed = false) {call : BackendCall}
    {operation : String} (query : call.operation? = some operation) :
    b.QueryEnd operation s (b.backend.perform call s) := by
  have active : b.QueryEnd "queryActiveQueues" s (b.readActive s) :=
    roundTrip_ends used _ fun _ => stopsAtFault_active
  cases call with
  | queueStatus queues =>
    cases query
    have ended := roundTrip_ends used "queryQueueStatus" fun _ =>
      b.stopsAtFault_readStatuses KeyedMap.empty queues
    exact ended.map fun _ => ()
  | activeQueues =>
    cases query
    exact active.map fun _ => ()
  | workerIdentifiers =>
    cases query
    have listed : b.QueryEnd "queryActiveQueues" s (b.backend.workerIdentifiers s) :=
      active.map ActiveSnapshot.workers
    exact listed.map fun _ => ()
  | workersProcessing queues =>
    cases query
    have ended := roundTrip_ends used "queryWorkersProcessing" fun _ =>
      b.stopsAtFault_anyProcessing queues
    exact ended.map fun _ => ()
  | watchQueues queues => cases query
  | dispose => cases query

theorem roundTrip_concludes (operation : String) {trip : Run (Service β) α}
    (stops : ∀ s, StopsAtFault b.broker trip s) : Concludes (b.roundTrip operation trip) := by
  refine concludes_of_ne fun s => ?_
  cases used : s.outside.pool.disposed with
  | true => simp [roundTrip_of_disposed used]
  | false => exact (roundTrip_ends used operation stops).concluded

theorem queueStatus_concludes (b : QueueBackend β) (queues : List String) :
    Concludes (b.backend.queueStatus queues) :=
  roundTrip_concludes _ fun _ => stopsAtFault_readStatuses _ _

theorem activeQueues_concludes (b : QueueBackend β) : Concludes b.backend.activeQueues :=
  roundTrip_concludes _ fun _ => stopsAtFault_active

theorem stopsAtFault_watch (queues : List String) :
    StopsAtFault b.broker (b.watch queues) s := by
  cases used : s.outside.pool.disposed with
  | true =>
    have idle : b.watch queues s = (pure () : Run (Service β) Unit) s := by
      rw [watch, pool_bind, if_pos used]
    exact (stopsAtFault_pure ()).of_eq idle
  | false => exact (stopsAtFault_holdAll queues).of_eq (watch_of_used used queues)

theorem watchQueues_concludes (b : QueueBackend β) (queues : List String) :
    Concludes (b.backend.watchQueues queues) :=
  StopsAtFault.concludes fun _ => b.stopsAtFault_watch queues

/-- A backend that is not disposed of. -/
def InUse (_ : List BrokerCall) (w : Service β) : Prop := w.pool.disposed = false

theorem moves_inUse (b : QueueBackend β) : b.Moves InUse :=
  b.moves_of_calls (fun _ _ _ => keeps_call fun _ _ still => still) fun _ _ _ _ still => still

/-- Nothing but a disposal disposes of a backend. -/
theorem after_used (used : s.outside.pool.disposed = false) {turns : List Backend.Turn}
    (noDisposal : ∀ t ∈ turns, t.call ≠ .dispose) :
    (b.backend.after s turns).outside.pool.disposed = false := by
  have kept : ∀ t ∈ turns, Keeps InUse (b.backend.perform t.call) := fun t listed =>
    b.moves_inUse.upholds.perform t.call fun disposal => absurd disposal (noDisposal t listed)
  exact Backend.keeps_turns turns kept [] used

/-- Every query at every turn of a backend that nobody disposes of resolves, is refused by the
breaker, or fails with the first call that has failed. -/
theorem every_query_ends (b : QueueBackend β) (s : Session (Service β))
    (used : s.outside.pool.disposed = false) (turns : List Backend.Turn)
    (noDisposal : ∀ t ∈ turns, t.call ≠ .dispose) :
    ∀ before t later, turns = before ++ t :: later → t.call.isQuery = true →
      ∃ operation, t.call.operation? = some operation ∧
        b.QueryEnd operation { b.backend.after s before with now := t.now }
          (b.backend.take t (b.backend.after s before)) := by
  rintro before t later rfl query
  have still : (b.backend.after s before).outside.pool.disposed = false :=
    after_used used fun t listed => noDisposal t (List.mem_append_left _ listed)
  have named : ∃ operation, t.call.operation? = some operation := by
    cases call : t.call <;> rw [call] at query <;> first | exact ⟨_, rfl⟩ | cases query
  obtain ⟨operation, named⟩ := named
  exact ⟨operation, named,
    perform_ends (s := { b.backend.after s before with now := t.now }) still named⟩

/-- One failure opens this breaker. The first query fails at its third call, and the second one is
refused. -/
theorem every_query_ends_at_open_breaker :
    let silentQueue : ScriptedQueue := { workers := [.error (.value (.text "gone"))] }
    let b : QueueBackend Play := ⟨Play.broker, Log.Logger.silent, none⟩
    let s : Session (Service Play) := Session.start 0
      { Service.start "ready" { queues := [("a", silentQueue)] } with
        pool := Pool.new (some 1) (some 10) }
    let first : Backend.Turn := ⟨0, .queueStatus ["a", "b"]⟩
    let second : Backend.Turn := ⟨9, .workerIdentifiers⟩
    (∃ t, Play.broker.BreaksOff s.outside.broker (b.backend.calls s [first]) t) ∧
      (b.backend.take second (b.backend.after s [first])).outcome =
        .threw (.failure (.breakerOpen Pool.breakerName)) := by
  intro silentQueue b s first second
  have ends := every_query_ends b s rfl [first, second] (by decide)
  constructor
  · obtain ⟨_, _, ended⟩ := ends [] first [second] rfl rfl
    rw [Backend.calls, Backend.calls, List.append_nil]
    cases ended with
    | resolved _ _ passed => exact absurd passed (by decide +kernel)
    | refused refuses => exact absurd refuses (by decide +kernel)
    | failed t f _ broke => exact ⟨t, broke⟩
  · obtain ⟨_, _, ended⟩ := ends [first] second [] rfl rfl
    have shut : (b.backend.after s [first]).outside.pool.breaker.refuses 9 = true := by
      decide +kernel
    cases ended with
    | resolved admitted => exact absurd (admitted.symm.trans shut) Bool.false_ne_true
    | refused _ came => exact came
    | failed _ _ admitted => exact absurd (admitted.symm.trans shut) Bool.false_ne_true

end QueueBackend

end JobWatch
