import JobWatch.Proofs.Backend.Lifecycle
import JobWatch.Proofs.Backend.Outages
import JobWatch.Proofs.Status

/-!
# Which workers a reading names

A reading of the workers asks the broker about each known queue in turn. If all of these calls go
through, it is made of what the broker lists: it names exactly those who are listed, each by what
its connection is called. The broker may list others at each call.
-/

namespace JobWatch

variable {β α : Type}

/-- What the broker lists for each of some queues, asked about one after the other up to the first
for which it has no answer. -/
def Broker.listings (b : Broker β) : β → List String → List (String × List WorkerClient)
  | _, [] => []
  | w, queue :: rest =>
    match (b.workers queue w).1.outcome with
    | .ok clients => (queue, clients) :: b.listings (b.next w (.workers queue)) rest
    | .error _ => []

/-- Asked about some queues, the broker lists the worker for one of them. -/
def Broker.Lists (b : Broker β) (w : β) (queues : List String) (queue : String)
    (c : WorkerClient) : Prop :=
  ∃ clients, (queue, clients) ∈ b.listings w queues ∧ c ∈ clients

/-- What the workers on the lists are called, in the order of the lists. -/
def identifiers (lists : List (String × List WorkerClient)) : List String :=
  lists.flatMap fun e => e.2.map WorkerClient.identifier

/-- The queues for which somebody is listed, each with what its workers are called. -/
def attendance (lists : List (String × List WorkerClient)) : List (String × List String) :=
  (lists.filter fun e => !e.2.isEmpty).map fun e => (e.1, e.2.map WorkerClient.identifier)

theorem Broker.mem_identifiers {b : Broker β} {w : β} {queues : List String} {name : String} :
    name ∈ identifiers (b.listings w queues) ↔
      ∃ queue c, b.Lists w queues queue c ∧ c.identifier = name := by
  simp only [identifiers, List.mem_flatMap, List.mem_map, Lists]
  constructor
  · rintro ⟨⟨queue, clients⟩, listed, c, among, named⟩
    exact ⟨queue, c, ⟨clients, listed, among⟩, named⟩
  · rintro ⟨queue, c, ⟨clients, listed, among⟩, named⟩
    exact ⟨(queue, clients), listed, c, among, named⟩

theorem Broker.exists_listings_cons {b : Broker β} {w : β} {queue : String} {rest : List String}
    (answered : b.allPass w ((queue :: rest).map .workers) = true) :
    ∃ clients, (b.workers queue w).1.outcome = .ok clients ∧
      b.listings w (queue :: rest) =
        (queue, clients) :: b.listings (b.next w (.workers queue)) rest ∧
      b.allPass (b.next w (.workers queue)) (rest.map .workers) = true := by
  obtain ⟨passes, later⟩ := (Bool.and_eq_true _ _).mp answered
  cases listed : (b.workers queue w).1.outcome with
  | error t =>
    have fails : b.passes w (.workers queue) = false := congrArg Except.isOk listed
    cases fails.symm.trans passes
  | ok clients => exact ⟨clients, rfl, by simp only [listings, listed], later⟩

/-- If all queues can be asked about, there is a list for each of them. -/
theorem Broker.queues_listings {b : Broker β} {w : β} {queues : List String}
    (answered : b.allPass w (queues.map .workers) = true) :
    (b.listings w queues).map (·.1) = queues := by
  induction queues generalizing w with
  | nil => rfl
  | cons queue rest ih =>
    obtain ⟨clients, -, lists, later⟩ := exists_listings_cons answered
    rw [lists, List.map_cons, ih later]

namespace QueueBackend

open Run

variable {b : QueueBackend β} {s : Session (Service β)}

/-- A reading that nothing stops files whoever is listed for a queue, and names all who are
listed, behind those known before. -/
theorem readWorkers_returned (m : ActiveQueues) (workers queues : List String)
    (answered : b.broker.allPass s.outside.broker (queues.map .workers) = true) :
    (b.readWorkers m workers queues s).outcome = .returned
      ⟨some (m.fileAll (attendance (b.broker.listings s.outside.broker queues))),
        (identifiers (b.broker.listings s.outside.broker queues)).foldl remember workers⟩ := by
  induction queues generalizing m workers s with
  | nil => rfl
  | cons queue rest ih =>
    obtain ⟨clients, listed, lists, later⟩ := Broker.exists_listings_cons answered
    have broker : (call (.workers queue) (b.broker.workers queue) s).session.outside.broker =
        b.broker.next s.outside.broker (.workers queue) :=
      congrArg Service.broker (call_outside _ _ s)
    rw [← broker] at lists later
    rw [readWorkers, bind_returned (call_returned listed), lists]
    by_cases deserted : clients.isEmpty = true
    · obtain rfl := List.isEmpty_iff.mp deserted
      exact ih m workers later
    · simp only [if_neg deserted, ih _ _ later]
      simp [attendance, identifiers, KeyedMap.fileAll, deserted, List.foldl_append]

/-- A round trip that is let through returns what its trip returns. -/
theorem roundTrip_of_returned (admitted : s.outside.pool.Admits s.now) (operation : String)
    {trip : Run (Service β) α} {a : α}
    (came : (trip { s with outside := { s.outside with pool :=
      { s.outside.pool with breaker := s.outside.pool.breaker.letThrough } } }).outcome =
        .returned a) :
    (b.roundTrip operation trip s).outcome = .returned a := by
  rw [roundTrip_of_started admitted.1 admitted.starts, settle_of_returned came]

/-- If every known queue can be read, a reading is made of what is listed for each of them. -/
theorem activeQueues_of_answered (admitted : s.outside.pool.Admits s.now)
    (answered : b.broker.allPass s.outside.broker (s.outside.pool.handles.map .workers) = true) :
    let lists := b.broker.listings s.outside.broker s.outside.pool.handles
    (b.backend.activeQueues s).outcome =
        .returned ⟨some (KeyedMap.empty.fileAll (attendance lists)), distinct (identifiers lists)⟩ ∧
      brokerCalls (b.backend.activeQueues s).events = s.outside.pool.handles.map .workers := by
  refine ⟨roundTrip_of_returned admitted _ ?_, ?_⟩
  · exact b.readWorkers_returned KeyedMap.empty [] s.outside.pool.handles
      (s := { s with outside := { s.outside with pool :=
        { s.outside.pool with breaker := s.outside.pool.breaker.letThrough } } }) answered
  · exact (activeQueues_calls admitted).trans (Broker.upToFailure_of_allPass answered)

/-- Asked only for the workers, the backend makes the same reading. -/
theorem workerIdentifiers_apply (b : QueueBackend β) (s : Session (Service β)) :
    b.backend.workerIdentifiers s =
      ⟨(b.backend.activeQueues s).outcome.map ActiveSnapshot.workers,
        (b.backend.activeQueues s).events, (b.backend.activeQueues s).session⟩ :=
  map_apply _ _ s

/-- If every known queue can be read, the workers are named by those whom the broker lists for one
of them, and nothing but the queues' workers is asked for. -/
theorem workerIdentifiers_of_answered (admitted : s.outside.pool.Admits s.now)
    (answered : b.broker.allPass s.outside.broker (s.outside.pool.handles.map .workers) = true) :
    (∃ names, (b.backend.workerIdentifiers s).outcome = .returned names ∧
      ∀ name, name ∈ names ↔
        ∃ queue c, b.broker.Lists s.outside.broker s.outside.pool.handles queue c ∧
          c.identifier = name) ∧
      brokerCalls (b.backend.workerIdentifiers s).events =
        s.outside.pool.handles.map .workers := by
  obtain ⟨read, calls⟩ := activeQueues_of_answered admitted answered
  rw [workerIdentifiers_apply, read]
  refine ⟨⟨_, rfl, fun name => ?_⟩, calls⟩
  exact mem_distinct.trans Broker.mem_identifiers

end QueueBackend

end JobWatch
