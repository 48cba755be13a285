import JobWatch.Backend.Queues
import JobWatch.Proofs.Status

/-!
# Readings of a broker that does not change

A broker that always answers the same is given by its answers: whole numbers of jobs, lists of
clients, whole numbers of busy workers. Here are the readings that follow from them, and what a
check draws from the readings, in terms of the answers. That a reading comes about is shown
elsewhere.
-/

namespace JobWatch

/-- What a broker says about its queues when asked. -/
structure Answers where
  counts : String → List (String × Nat)
  clients : String → List WorkerClient
  active : String → Nat

namespace Answers

/-- The counts as they are sent. -/
def sentCounts (a : Answers) (queue : String) : List (String × Binary64) :=
  (a.counts queue).map fun e => (e.1, Binary64.ofNat e.2)

/-- The jobs of a queue in a state; a state that is not mentioned has none. -/
def count (a : Answers) (queue state : String) : Nat := ((a.counts queue).lookup state).getD 0

/-- The jobs of a queue that nobody has picked up. -/
def backlog (a : Answers) (queue : String) : Nat :=
  a.count queue "wait" + a.count queue "prioritized" + a.count queue "delayed" +
    a.count queue "paused"

def identifiers (a : Answers) (queue : String) : List String :=
  (a.clients queue).map WorkerClient.identifier

/-- The reading of one queue. -/
def status (a : Answers) (queue : String) : QueueStatus :=
  ⟨queue, pendingJobs (a.sentCounts queue), Binary64.ofNat (a.clients queue).length⟩

def statuses (a : Answers) (queues : List String) : StatusMap :=
  queues.foldl (fun m queue => m.file queue (a.status queue)) KeyedMap.empty

/-- The queues that have a worker. -/
def attended (a : Answers) (queues : List String) : List String :=
  queues.filter fun queue => !(a.clients queue).isEmpty

/-- The reading of the workers on the queues known. -/
def snapshot (a : Answers) (known : List String) : ActiveSnapshot :=
  ⟨some ((a.attended known).foldl (fun m queue => m.file queue (a.identifiers queue)) .empty),
    (a.attended known).foldl (fun seen queue => (a.identifiers queue).foldl remember seen) []⟩

/-- Some client on a queue known bears an expected name, as part of its identifier. -/
def Reports (a : Answers) (expected known : List String) : Prop :=
  ∃ queue ∈ known, ∃ client ∈ a.clients queue, ∃ name ∈ expected,
    name.toList <:+: client.identifier.toList

theorem Reports.of_subset {a : Answers} {expected known known' : List String}
    (sub : ∀ queue ∈ known, queue ∈ known') (h : a.Reports expected known) :
    a.Reports expected known' := by
  obtain ⟨queue, listed, rest⟩ := h
  exact ⟨queue, sub queue listed, rest⟩

/-! ## The backlog -/

theorem lookup_sentCounts (a : Answers) (queue state : String) :
    (a.sentCounts queue).lookup state = ((a.counts queue).lookup state).map Binary64.ofNat := by
  unfold sentCounts
  induction a.counts queue with
  | nil => rfl
  | cons e rest ih =>
    rw [List.map_cons, List.lookup_cons, List.lookup_cons]
    cases state == e.1 with
    | false => exact ih
    | true => rfl

/-- What the sum of a backlog adds for one state. -/
theorem term_isPositive (a : Answers) (queue state : String) :
    ((((a.sentCounts queue).lookup state).filter Binary64.isTruthy).getD .zero).IsNonneg ∧
      ((((a.sentCounts queue).lookup state).filter Binary64.isTruthy).getD .zero).isPositive =
        decide (0 < a.count queue state) := by
  rw [lookup_sentCounts, count]
  cases (a.counts queue).lookup state with
  | none => exact ⟨Binary64.isNonneg_zero, rfl⟩
  | some n =>
    rw [Option.map_some, Option.getD_some]
    by_cases pos : 0 < n
    · have truthy := Binary64.isTruthy_ofNat.mpr pos
      rw [Option.filter_some_pos truthy, Option.getD_some]
      exact ⟨Binary64.isNonneg_ofNat n, by simp [pos, Binary64.isPositive_ofNat]⟩
    · have falsy : (Binary64.ofNat n).isTruthy = false :=
        Bool.eq_false_iff.mpr fun truthy => pos (Binary64.isTruthy_ofNat.mp truthy)
      rw [Option.filter_some_neg falsy, Option.getD_none]
      exact ⟨Binary64.isNonneg_zero, by simp [pos, Binary64.zero, Binary64.isPositive]⟩

theorem backlog_pos (a : Answers) (queue : String) :
    0 < a.backlog queue ↔ ∃ state ∈ pendingStates, 0 < a.count queue state := by
  simp only [pendingStates, List.mem_cons, List.not_mem_nil, or_false, exists_eq_or_imp,
    exists_eq_left, backlog]
  omega

theorem pendingJobs_isPositive (a : Answers) (queue : String) :
    (a.status queue).pendingJobs.IsNonneg ∧
      ((a.status queue).pendingJobs.isPositive = true ↔ 0 < a.backlog queue) := by
  obtain ⟨nonneg, positive⟩ := Binary64.foldl_add_isPositive
    (fun state => (((a.sentCounts queue).lookup state).filter Binary64.isTruthy).getD .zero)
    pendingStates (fun state _ => (a.term_isPositive queue state).1) Binary64.isNonneg_zero
  refine ⟨nonneg, positive.trans ?_⟩
  have zero : Binary64.zero.isPositive = false := rfl
  simp only [(a.term_isPositive queue _).2, backlog_pos, decide_eq_true_eq, zero,
    Bool.false_eq_true, false_or]

theorem mem_statuses {a : Answers} {queues : List String} {status : QueueStatus} :
    status ∈ (a.statuses queues).values ↔
      ∃ queue ∈ queues, queue ≠ KeyedMap.reserved ∧ status = a.status queue := by
  simp only [KeyedMap.values, List.mem_map, KeyedMap.mem_toList, statuses, KeyedMap.mem_filed]
  constructor
  · rintro ⟨e, ⟨queue, listed, filed, rfl⟩, rfl⟩
    exact ⟨queue, listed, filed, rfl⟩
  · rintro ⟨queue, listed, filed, rfl⟩
    exact ⟨_, ⟨queue, listed, filed, rfl⟩, rfl⟩

/-- The jobs that count are there exactly if a queue that counts has a backlog. -/
theorem aggregateJobs_isPositive (a : Answers) {queues : List String}
    (filed : ∀ queue ∈ queues, queue ≠ KeyedMap.reserved) (counts : QueueStatus → Bool) :
    (aggregateJobs ((a.statuses queues).values.filter counts)).isPositive = true ↔
      ∃ queue ∈ queues, counts (a.status queue) = true ∧ 0 < a.backlog queue := by
  rw [aggregateJobs_isPositive_iff]
  · simp only [List.mem_filter, mem_statuses]
    constructor
    · rintro ⟨status, ⟨⟨queue, listed, _, rfl⟩, counted⟩, positive⟩
      exact ⟨queue, listed, counted, (a.pendingJobs_isPositive queue).2.mp positive⟩
    · rintro ⟨queue, listed, counted, waiting⟩
      exact ⟨a.status queue, ⟨⟨queue, listed, filed queue listed, rfl⟩, counted⟩,
        (a.pendingJobs_isPositive queue).2.mpr waiting⟩
  · intro status listed
    obtain ⟨queue, _, _, rfl⟩ := mem_statuses.mp (List.mem_filter.mp listed).1
    exact (a.pendingJobs_isPositive queue).1

/-! ## The workers -/

theorem mem_attended {a : Answers} {queues : List String} {queue : String} :
    queue ∈ a.attended queues ↔ queue ∈ queues ∧ a.clients queue ≠ [] := by
  simp [attended]

theorem mem_workers {a : Answers} {known : List String} {worker : String} :
    worker ∈ (a.snapshot known).workers ↔ ∃ queue ∈ known, worker ∈ a.identifiers queue := by
  rw [snapshot, mem_foldl_foldl_remember]
  simp only [List.not_mem_nil, false_or, mem_attended]
  constructor
  · rintro ⟨queue, ⟨listed, _⟩, named⟩
    exact ⟨queue, listed, named⟩
  · rintro ⟨queue, listed, named⟩
    refine ⟨queue, ⟨listed, fun deserted => ?_⟩, named⟩
    simp [identifiers, deserted] at named

/-- No consumer is counted exactly if no relevant queue has a client. -/
theorem aggregateConsumers_eq_zero (a : Answers) {known relevant : List String}
    (sub : ∀ queue ∈ relevant, queue ∈ known)
    (filed : ∀ queue ∈ relevant, queue ≠ KeyedMap.reserved) :
    aggregateConsumers (a.snapshot known).activeQueues relevant = 0 ↔
      ∀ queue ∈ relevant, a.clients queue = [] := by
  rw [snapshot, aggregateConsumers_eq_zero_iff]
  simp only [KeyedMap.mem_filed, mem_attended]
  constructor
  · intro idle queue wanted
    apply Classical.byContradiction
    intro attended
    have deserted := idle (queue, a.identifiers queue)
      ⟨queue, ⟨sub queue wanted, attended⟩, filed queue wanted, rfl⟩ wanted
    exact attended (List.map_eq_nil_iff.mp deserted)
  · rintro idle e ⟨queue, ⟨_, attended⟩, _, rfl⟩ wanted
    exact absurd (idle queue wanted) attended

theorem hasExpectedWorker_iff (a : Answers) {expected known : List String} :
    hasExpectedWorker expected (a.snapshot known).workers = true ↔ a.Reports expected known := by
  simp only [JobWatch.hasExpectedWorker_iff, Recognised, Reports, mem_workers]
  constructor
  · rintro ⟨worker, ⟨queue, listed, named⟩, wanted⟩
    obtain ⟨client, connected, rfl⟩ := List.mem_map.mp named
    exact ⟨queue, listed, client, connected, wanted⟩
  · rintro ⟨queue, listed, client, connected, wanted⟩
    exact ⟨client.identifier, ⟨queue, listed, List.mem_map_of_mem connected⟩, wanted⟩

instance (a : Answers) (expected known : List String) : Decidable (a.Reports expected known) :=
  decidable_of_decidable_of_iff a.hasExpectedWorker_iff

end Answers

end JobWatch
