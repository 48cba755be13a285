import JobWatch.Proofs.Backend.Roster
import JobWatch.Proofs.Data.KeyedMap
import JobWatch.Script

/-!
# What a query of the backlog answers

A query of the backlog reads the queues it is given one after the other, and keeps for each name
what was read last. The main statement says which statuses the answer holds and how they are added
up, whatever the broker says at each reading: one status for each queue asked about, except for a
queue under the one name that cannot be filed. How large the rounding of a sum may be is left open.
-/

namespace JobWatch

variable {β α : Type}

/-- What a broker says of a queue when its status is read. -/
structure QueueReading where
  counts : List (String × Binary64)
  clients : List WorkerClient
deriving DecidableEq, Repr

namespace QueueReading

/-- The jobs in a state. There are none where nothing is said, or what is said is no number. -/
def count (r : QueueReading) (state : String) : Binary64 :=
  ((r.counts.lookup state).filter Binary64.isTruthy).getD .zero

/-- The jobs that nobody has picked up. -/
def backlog (r : QueueReading) : Binary64 :=
  .zero + r.count "wait" + r.count "prioritized" + r.count "delayed" + r.count "paused"

def status (r : QueueReading) (queue : String) : QueueStatus :=
  ⟨queue, r.backlog, Binary64.ofNat r.clients.length⟩

end QueueReading

namespace QueueBackend

open Run

/-- What the broker says of some queues that are read one after the other, up to the first reading
that fails. A handle is opened for each queue that has none. -/
def readings (b : QueueBackend β) : β → List String → List String → List (String × QueueReading)
  | _, _, [] => []
  | w, held, queue :: rest =>
    let opened := if queue ∈ held then w else b.broker.next w (.openHandle queue b.keyPrefix)
    let counted := b.broker.next opened (.jobCounts queue)
    match (b.broker.jobCounts queue opened).1.outcome,
      (b.broker.workers queue counted).1.outcome with
    | .ok counts, .ok clients => (queue, ⟨counts, clients⟩) ::
        b.readings (b.broker.next counted (.workers queue)) (remember held queue) rest
    | _, _ => []

variable {b : QueueBackend β} {s : Session (Service β)} {queue : String}

/-- The broker once a handle is there. -/
theorem broker_hold (came : (b.hold queue s).outcome = .returned ()) :
    (b.hold queue s).session.outside.broker =
      if queue ∈ s.outside.pool.handles then s.outside.broker
      else b.broker.next s.outside.broker (.openHandle queue b.keyPrefix) := by
  by_cases held : queue ∈ s.outside.pool.handles
  · rw [hold_of_held held, if_pos held]
  · rw [if_neg held]
    cases opens : (b.broker.openHandle queue s.outside.broker).1.outcome with
    | ok _ =>
      rw [(hold_of_missing held opens).2]
      rfl
    | error t =>
      rw [(hold_of_failing held opens).1] at came
      cases came

theorem outcome_of_call_returned {c : BrokerCall} {respond : Responder β α} {a : α}
    (came : (call c respond s).outcome = .returned a) :
    (respond s.outside.broker).1.outcome = .ok a := by
  cases out : (respond s.outside.broker).1.outcome with
  | ok a' =>
    rw [call_returned out] at came
    exact congrArg Except.ok (Outcome.returned.inj came)
  | error t =>
    rw [call_threw out] at came
    cases came

/-- To read a status a handle is held, and then only the broker has something to do. -/
theorem outside_readStatus {status : QueueStatus}
    (came : (b.readStatus queue s).outcome = .returned status) :
    (b.hold queue s).outcome = .returned () ∧
      (b.readStatus queue s).session.outside =
        { (b.hold queue s).session.outside with
          broker := b.broker.next (b.broker.next (b.hold queue s).session.outside.broker
            (.jobCounts queue)) (.workers queue) } := by
  obtain ⟨_, held, came, after⟩ := returned_of_bind came
  obtain ⟨counts, _, came, after'⟩ := returned_of_bind came
  obtain ⟨clients, _, _, after''⟩ := returned_of_bind came
  refine ⟨held, ?_⟩
  rw [readStatus, after, after', after'', pure_apply, call_outside, call_outside]
  rfl

/-- A status that has been read is what the broker has said. -/
theorem readStatus_returned {status : QueueStatus}
    (came : (b.readStatus queue s).outcome = .returned status) (rest : List String) :
    ∃ r : QueueReading, status = r.status queue ∧
      b.readings s.outside.broker s.outside.pool.handles (queue :: rest) =
        (queue, r) :: b.readings (b.readStatus queue s).session.outside.broker
          (b.readStatus queue s).session.outside.pool.handles rest := by
  obtain ⟨held, done⟩ := outside_readStatus came
  obtain ⟨_, _, came, _⟩ := returned_of_bind came
  obtain ⟨counts, counted, came, _⟩ := returned_of_bind came
  obtain ⟨clients, listed, came, _⟩ := returned_of_bind came
  have said := outcome_of_call_returned counted
  have listed' := outcome_of_call_returned listed
  refine ⟨⟨counts, clients⟩, (Outcome.returned.inj came).symm, ?_⟩
  have named : (b.broker.workers queue (b.broker.next (b.hold queue s).session.outside.broker
      (.jobCounts queue))).1.outcome = .ok clients := by
    rw [call_outside] at listed'
    exact listed'
  rw [done, readings, ← broker_hold held, ← handles_hold held]
  simp only [said, named]

/-- Statuses that have been read are filed one after the other. -/
theorem readStatuses_returned {m m' : StatusMap} {queues : List String}
    (came : (b.readStatuses m queues s).outcome = .returned m') :
    m' = m.fileAll ((b.readings s.outside.broker s.outside.pool.handles queues).map
        fun e => (e.1, e.2.status e.1)) ∧
      (b.readings s.outside.broker s.outside.pool.handles queues).map (·.1) = queues := by
  induction queues generalizing m s with
  | nil => exact ⟨(Outcome.returned.inj came).symm, rfl⟩
  | cons queue rest ih =>
    obtain ⟨status, read, came, -⟩ := returned_of_bind came
    obtain ⟨r, rfl, readings⟩ := readStatus_returned read rest
    obtain ⟨filed, names⟩ := ih came
    rw [readings, List.map_cons, List.map_cons, names]
    exact ⟨filed, rfl⟩

/-- A trip that is let through returns if none of its calls fails. -/
theorem roundTrip_of_answered (admitted : s.outside.pool.Admits s.now) (operation : String)
    {trip : Run (Service β) α} (stops : ∀ s, StopsAtFault b.broker trip s)
    (answered : b.broker.allPass s.outside.broker
      (brokerCalls (b.roundTrip operation trip s).events) = true) :
    ∃ a, (trip { s with outside := { s.outside with pool :=
        { s.outside.pool with breaker := s.outside.pool.breaker.letThrough } } }).outcome =
          .returned a ∧
      (b.roundTrip operation trip s).outcome = .returned a := by
  rw [roundTrip_calls admitted] at answered
  have ends := (stops { s with outside := { s.outside with pool :=
    { s.outside.pool with breaker := s.outside.pool.breaker.letThrough } } }).ends
  cases came : (trip { s with outside := { s.outside with pool :=
      { s.outside.pool with breaker := s.outside.pool.breaker.letThrough } } }).outcome with
  | returned a => exact ⟨a, rfl, roundTrip_of_returned admitted operation came⟩
  | threw t =>
    rw [came] at ends
    exact absurd answered (by simp [Broker.BreaksOff.allPass ends])
  | unfinished =>
    rw [came] at ends
    exact ends.elim

/-- The statuses are those of some queues, each once and as it was read last, and their backlogs
are what a check adds up. -/
def Accounts (readings : List (String × QueueReading)) (queues : List String) (m : StatusMap) :
    Prop :=
  ∃ (order : List String) (said : String → QueueReading), order.Perm queues ∧
    (∀ queue ∈ order, KeyedMap.latest? queue readings = some (said queue)) ∧
    m.values = order.map (fun queue => (said queue).status queue) ∧
    aggregateJobs m.values = order.foldl (fun total queue => total + (said queue).backlog) .zero

theorem Accounts.names {readings : List (String × QueueReading)} {queues : List String}
    {m : StatusMap} (accounts : Accounts readings queues m) :
    (m.values.map QueueStatus.name).Perm queues := by
  obtain ⟨order, said, perm, -, values, -⟩ := accounts
  have carried : (order.map fun queue => (said queue).status queue).map QueueStatus.name = order := by
    rw [List.map_map]
    exact List.map_id order
  rw [values, carried]
  exact perm

/-- Statuses that are filed as they are read account for every queue but that under the one name
that cannot be filed. -/
theorem accounts_fileAll (readings : List (String × QueueReading)) :
    Accounts readings (distinct ((readings.map (·.1)).filter (· ≠ KeyedMap.reserved)))
      (KeyedMap.empty.fileAll (readings.map fun e => (e.1, e.2.status e.1))) := by
  have names : (readings.map fun e => (e.1, e.2.status e.1)).map (·.1) = readings.map (·.1) := by
    rw [List.map_map]
    rfl
  have perm := KeyedMap.keys_fileAll_empty (readings.map fun e => (e.1, e.2.status e.1))
  rw [names] at perm
  let said (queue : String) : QueueReading := (KeyedMap.latest? queue readings).getD ⟨[], []⟩
  have reads (queue : String) (h : queue ∈ readings.map (·.1)) :
      KeyedMap.latest? queue readings = some (said queue) := by
    obtain ⟨r, found⟩ := KeyedMap.exists_latest? h
    simp only [said, found, Option.getD_some]
  have values : (KeyedMap.empty.fileAll (readings.map fun e => (e.1, e.2.status e.1))).values =
      (KeyedMap.empty.fileAll (readings.map fun e => (e.1, e.2.status e.1))).keys.map
        fun queue => (said queue).status queue := by
    rw [KeyedMap.values, KeyedMap.keys, List.map_map]
    refine List.map_congr_left fun e he => ?_
    have last := KeyedMap.latest?_of_mem_fileAll_empty he
    rw [KeyedMap.latest?_map fun queue r => QueueReading.status r queue] at last
    obtain ⟨r, found, same⟩ := Option.map_eq_some_iff.mp last
    simp only [Function.comp_apply, said, found, Option.getD_some, same]
  refine ⟨_, said, perm, fun queue h => reads queue ?_, values, ?_⟩
  · exact List.mem_of_mem_filter (mem_distinct.mp (perm.mem_iff.mp h))
  · rw [values, aggregateJobs, List.foldl_map]
    rfl

/-- If every call of the query goes through, the answer accounts for every queue asked about,
unless one bears the name that cannot be filed. -/
theorem every_status_kept_iff (b : QueueBackend β) (s : Session (Service β)) (queues : List String)
    (admitted : s.outside.pool.Admits s.now)
    (answered : b.broker.allPass s.outside.broker
      (brokerCalls (b.backend.queueStatus queues s).events) = true) :
    ∃ m, (b.backend.queueStatus queues s).outcome = .returned m ∧
      (b.readings s.outside.broker s.outside.pool.handles queues).map (·.1) = queues ∧
      Accounts (b.readings s.outside.broker s.outside.pool.handles queues)
        (distinct (queues.filter (· ≠ KeyedMap.reserved))) m ∧
      (Accounts (b.readings s.outside.broker s.outside.pool.handles queues) (distinct queues) m ↔
        KeyedMap.reserved ∉ queues) := by
  obtain ⟨m, read, came⟩ := roundTrip_of_answered admitted "queryQueueStatus"
    (fun _ => b.stopsAtFault_readStatuses KeyedMap.empty queues) answered
  obtain ⟨filed, names⟩ := readStatuses_returned read
  have accounts := accounts_fileAll (b.readings s.outside.broker s.outside.pool.handles queues)
  rw [← filed, names] at accounts
  refine ⟨m, came, names, accounts, ?_, fun free => ?_⟩
  · intro all lost
    have kept := all.names.mem_iff.mpr (mem_distinct.mpr lost)
    have filtered := mem_distinct.mp (accounts.names.mem_iff.mp kept)
    exact of_decide_eq_true (List.mem_filter.mp filtered).2 rfl
  · have kept : queues.filter (· ≠ KeyedMap.reserved) = queues :=
      List.filter_eq_self.mpr fun queue h => decide_eq_true fun same => free (same ▸ h)
    rw [kept] at accounts
    exact accounts

/-- The queue `b` is read twice, and what is said of it has changed in between. An index comes
first. -/
theorem every_status_kept_of_repeat :
    let queues : List (String × ScriptedQueue) :=
      [("b", { counts := [.ok [("wait", .ofNat 1)], .ok [("wait", .ofNat 2), ("paused", .ofNat 3)]],
               workers := [.ok [⟨"bull:Yg==", "4", "10.0.0.1:6379"⟩]] }),
       ("7", { counts := [.ok [("delayed", .ofNat 4), ("failed", .ofNat 9)]] })]
    let b : QueueBackend Play := ⟨Play.broker, Log.Logger.silent, none⟩
    let s : Session (Service Play) := Session.start 0 (Service.start "ready" { queues })
    let m : StatusMap := ⟨[("b", ⟨"b", .ofNat 5, .ofNat 1⟩), ("7", ⟨"7", .ofNat 4, .zero⟩)]⟩
    (b.backend.queueStatus ["b", "7", "b"] s).outcome.returned? = some m ∧
      Accounts (b.readings s.outside.broker [] ["b", "7", "b"]) ["b", "7"] m ∧
      m.values.map QueueStatus.name = ["7", "b"] := by
  intro queues b s m
  have read : (b.backend.queueStatus ["b", "7", "b"] s).outcome.returned? = some m := by
    decide +kernel
  obtain ⟨m', came, -, -, kept⟩ :=
    every_status_kept_iff b s ["b", "7", "b"] (by decide) (by decide +kernel)
  have same : m = m' := Option.some.inj (read.symm.trans (by rw [came]; rfl))
  exact ⟨read, same ▸ kept.mpr (by decide), by decide⟩

/-- There are three jobs in the queue, and nothing is added up. -/
theorem status_lost_of_reserved :
    let queue : ScriptedQueue := { counts := [.ok [("wait", .ofNat 3)]] }
    let b : QueueBackend Play := ⟨Play.broker, Log.Logger.silent, none⟩
    let s : Session (Service Play) :=
      Session.start 0 (Service.start "ready" { queues := [("__proto__", queue)] })
    b.broker.allPass s.outside.broker
        (brokerCalls (b.backend.queueStatus ["__proto__"] s).events) = true ∧
      (b.readings s.outside.broker [] ["__proto__"]).map (fun e => (e.1, e.2.backlog)) =
        [("__proto__", .ofNat 3)] ∧
      (b.backend.queueStatus ["__proto__"] s).outcome.returned?.map KeyedMap.values = some [] ∧
      aggregateJobs [] = .zero := by
  decide +kernel

end QueueBackend

end JobWatch
