import JobWatch.Proofs.Backend.Roster
import JobWatch.Script

/-!
# The two halves of a reading

A reading of the workers says who is on which queue, and who is there at all. Both are built from
the lists that the broker gives for the known queues, and a check counts by the first what others
list by the second. The main statement says that the two halves agree with the lists, and so with
each other, whatever the broker lists and however many clients are called alike. In which order the
queues stand in the map is not said.
-/

namespace JobWatch

variable {β : Type}

namespace ActiveSnapshot

/-- What a reading says if these clients are listed for the queues. -/
structure Renders (snapshot : ActiveSnapshot) (lists : List (String × List WorkerClient)) :
    Prop where
  /-- Each queue at which there is somebody is filed once, with what its clients are called. -/
  queues : ∃ m, snapshot.activeQueues = some m ∧ m.keys.Nodup ∧ ∀ queue names,
    (queue, names) ∈ m.toList ↔ ∃ clients, (queue, clients) ∈ lists ∧ clients ≠ [] ∧
      names = clients.map WorkerClient.identifier
  /-- Everybody is named once, at the place of the first occurrence. -/
  workers : snapshot.workers =
    (lists.flatMap fun e => e.2.map WorkerClient.identifier).eraseDups

variable {snapshot : ActiveSnapshot} {lists : List (String × List WorkerClient)}

theorem Renders.nodup_workers (h : snapshot.Renders lists) : snapshot.workers.Nodup := by
  rw [h.workers, ← distinct_eq_eraseDups]
  exact nodup_distinct _

theorem Renders.mem_workers (h : snapshot.Renders lists) {worker : String} :
    worker ∈ snapshot.workers ↔
      ∃ queue clients, (queue, clients) ∈ lists ∧ worker ∈ clients.map WorkerClient.identifier := by
  rw [h.workers, List.mem_eraseDups, List.mem_flatMap]
  exact Prod.exists

/-- What is counted for some queues is a list of workers on them, without repeats. -/
theorem Renders.exists_counted (h : snapshot.Renders lists) (relevant : List String) :
    ∃ counted : List String, aggregateConsumers snapshot.activeQueues relevant = counted.length ∧
      counted.Nodup ∧ ∀ worker, worker ∈ counted ↔ ∃ queue clients, queue ∈ relevant ∧
        (queue, clients) ∈ lists ∧ worker ∈ clients.map WorkerClient.identifier := by
  obtain ⟨m, filed, -, entries⟩ := h.queues
  rw [filed]
  refine ⟨_, rfl, nodup_distinct _, fun worker => ?_⟩
  rw [mem_distinct, mem_aggregated]
  constructor
  · rintro ⟨⟨queue, names⟩, listed, isRelevant, among⟩
    obtain ⟨clients, answered, -, rfl⟩ := (entries queue names).mp listed
    exact ⟨queue, clients, isRelevant, answered, among⟩
  · rintro ⟨queue, clients, isRelevant, answered, among⟩
    have present : clients ≠ [] := List.ne_nil_of_length_pos <| by
      simpa using List.length_pos_of_mem among
    have listed := (entries queue _).mpr ⟨clients, answered, present, rfl⟩
    exact ⟨(queue, _), listed, isRelevant, among⟩

/-- A check counts nobody who is not named. -/
theorem Renders.consumers_le (h : snapshot.Renders lists) (relevant : List String) :
    aggregateConsumers snapshot.activeQueues relevant ≤ snapshot.workers.length := by
  obtain ⟨counted, count, unique, among⟩ := h.exists_counted relevant
  have sub : counted ⊆ snapshot.workers := by
    intro worker listed
    obtain ⟨queue, clients, -, answered, named⟩ := (among worker).mp listed
    exact h.mem_workers.mpr ⟨queue, clients, answered, named⟩
  rw [count]
  exact (List.subperm_of_subset unique sub).length_le

/-- If all queues count, a check counts everybody who is named. -/
theorem Renders.consumers_eq (h : snapshot.Renders lists) {relevant : List String}
    (covered : ∀ e ∈ lists, e.1 ∈ relevant) :
    aggregateConsumers snapshot.activeQueues relevant = snapshot.workers.length := by
  apply Nat.le_antisymm (h.consumers_le relevant)
  obtain ⟨counted, count, -, among⟩ := h.exists_counted relevant
  have sub : snapshot.workers ⊆ counted := by
    intro worker listed
    obtain ⟨queue, clients, answered, named⟩ := h.mem_workers.mp listed
    exact (among worker).mpr ⟨queue, clients, covered _ answered, answered, named⟩
  rw [count]
  exact (List.subperm_of_subset h.nodup_workers sub).length_le

end ActiveSnapshot

theorem queues_attendance_sublist (lists : List (String × List WorkerClient)) :
    ((attendance lists).map (·.1)).Sublist (lists.map (·.1)) := by
  rw [attendance, List.map_map]
  exact List.filter_sublist.map _

theorem mem_attendance {lists : List (String × List WorkerClient)} {queue : String}
    {names : List String} :
    (queue, names) ∈ attendance lists ↔ ∃ clients, (queue, clients) ∈ lists ∧ clients ≠ [] ∧
      names = clients.map WorkerClient.identifier := by
  simp only [attendance, List.mem_map, List.mem_filter, Bool.not_eq_true',
    List.isEmpty_eq_false_iff]
  constructor
  · rintro ⟨⟨queue', clients⟩, ⟨listed, present⟩, same⟩
    cases same
    exact ⟨clients, listed, present, rfl⟩
  · rintro ⟨clients, listed, present, rfl⟩
    exact ⟨(queue, clients), ⟨listed, present⟩, rfl⟩

/-- What is made of lists for different queues, none of which has the name that cannot be filed,
says what is on the lists. -/
theorem renders_attendance {lists : List (String × List WorkerClient)}
    (unique : (lists.map (·.1)).Nodup) (filed : KeyedMap.reserved ∉ lists.map (·.1)) :
    ActiveSnapshot.Renders
      ⟨some (KeyedMap.empty.fileAll (attendance lists)), distinct (identifiers lists)⟩ lists := by
  have unique' := (queues_attendance_sublist lists).nodup unique
  have filed' : KeyedMap.reserved ∉ (attendance lists).map (·.1) :=
    fun listed => filed ((queues_attendance_sublist lists).subset listed)
  have arrived : (KeyedMap.empty.fileAll (attendance lists)).arrivals = attendance lists :=
    KeyedMap.arrivals_fileAll unique' filed'
  refine ⟨⟨_, rfl, ?_, fun queue names => ?_⟩, distinct_eq_eraseDups _⟩
  · refine ((KeyedMap.toList_perm _).map _).nodup_iff.mpr ?_
    rwa [arrived]
  · rw [KeyedMap.mem_toList, arrived, mem_attendance]

namespace QueueBackend

/-- A reading of the workers on different queues, none of which has the name that cannot be filed,
asks for each known queue once and says what the broker lists. Who asks for the workers alone is
told the same ones. A check counts at most as many workers as are named, and all of them if all
known queues count. -/
theorem reading_renders_listings (b : QueueBackend β) (s : Session (Service β))
    (unique : s.outside.pool.handles.Nodup) (filed : KeyedMap.reserved ∉ s.outside.pool.handles)
    (admitted : s.outside.pool.Admits s.now)
    (answered : b.broker.allPass s.outside.broker (s.outside.pool.handles.map .workers) = true) :
    let known := s.outside.pool.handles
    let lists := b.broker.listings s.outside.broker known
    lists.map (·.1) = known ∧
      brokerCalls (b.backend.activeQueues s).events = known.map .workers ∧
      brokerCalls (b.backend.workerIdentifiers s).events = known.map .workers ∧
      ∃ snapshot, (b.backend.activeQueues s).outcome = .returned snapshot ∧
        (b.backend.workerIdentifiers s).outcome = .returned snapshot.workers ∧
        snapshot.Renders lists ∧
        ∀ relevant,
          aggregateConsumers snapshot.activeQueues relevant ≤ snapshot.workers.length ∧
          ((∀ queue ∈ known, queue ∈ relevant) →
            aggregateConsumers snapshot.activeQueues relevant = snapshot.workers.length) := by
  intro known lists
  have queues : lists.map (·.1) = known := Broker.queues_listings answered
  obtain ⟨read, calls⟩ := activeQueues_of_answered admitted answered
  have renders : ActiveSnapshot.Renders _ lists :=
    renders_attendance (queues ▸ unique) (queues ▸ filed)
  refine ⟨queues, calls, ?_, _, read, ?_, renders, fun relevant => ⟨?_, fun all => ?_⟩⟩
  · rw [workerIdentifiers_apply]
    exact calls
  · rw [workerIdentifiers_apply, read]
    rfl
  · exact renders.consumers_le relevant
  · refine renders.consumers_eq fun e listed => all e.1 ?_
    rw [← queues]
    exact List.mem_map_of_mem listed

/-- Three queues are known, at one of which there is nobody. One worker is at both others, twice at
the first, and an index comes first in the map. -/
theorem reading_renders_listings_of_shared_worker :
    let near : WorkerClient := ⟨"bull:Yg==:w:near", "4", "10.0.0.1:6379"⟩
    let far : WorkerClient := ⟨"bull:Nw==:w:far", "5", "10.0.0.2:6379"⟩
    let queues : List (String × ScriptedQueue) :=
      [("b", { workers := [.ok [near, { near with id := "6" }]] }),
        ("7", { workers := [.ok [far, near]] })]
    let b : QueueBackend Play := ⟨Play.broker, Log.Logger.silent, none⟩
    let s : Session (Service Play) := Session.start 0
      { Service.start "ready" { queues } with
        pool := { Pool.new none none with handles := ["b", "idle", "7"] } }
    ∃ snapshot : ActiveSnapshot,
      (b.backend.workerIdentifiers s).outcome = .returned snapshot.workers ∧
        snapshot.workers = ["near@10.0.0.1", "far@10.0.0.2"] ∧
        snapshot.activeQueues.map KeyedMap.toList =
          some [("7", ["far@10.0.0.2", "near@10.0.0.1"]),
            ("b", ["near@10.0.0.1", "near@10.0.0.1"])] ∧
        aggregateConsumers snapshot.activeQueues ["7", "idle", "b", "b"] = 2 := by
  intro near far queues b s
  obtain ⟨-, -, -, snapshot, read, named, -, counted⟩ :=
    reading_renders_listings b s (by decide) (by decide) (by decide) (by decide +kernel)
  have seen : (b.backend.activeQueues s).outcome.returned? = some
      ⟨some ⟨[("b", ["near@10.0.0.1", "near@10.0.0.1"]),
        ("7", ["far@10.0.0.2", "near@10.0.0.1"])]⟩, ["near@10.0.0.1", "far@10.0.0.2"]⟩ := by
    decide +kernel
  rw [read] at seen
  cases seen
  exact ⟨_, named, rfl, by decide, (counted _).2 (by decide)⟩

end QueueBackend

end JobWatch
