import JobWatch.Proofs.Data.KeyedMap
import JobWatch.Proofs.Number.Order
import JobWatch.Proofs.Text.Search
import JobWatch.Workers.Query
import Mathlib.Data.List.Induction

/-!
# What is drawn from readings

The totals of a check say whether there is anything at all: a backlog is positive exactly if some
status is, and no consumer is counted exactly if no relevant queue lists a worker. How large a
backlog is follows from how its queues are gone through; how many consumers are counted is not
stated. A worker is recognised by an expected name within its own.
-/

namespace JobWatch

/-- Who is counted: the workers at the relevant queues. -/
theorem mem_aggregated {m : ActiveQueues} {relevant : List String} {worker : String} :
    worker ∈ (m.toList.filterMap fun e => if e.1 ∈ relevant then some e.2 else none).flatten ↔
      ∃ e ∈ m.toList, e.1 ∈ relevant ∧ worker ∈ e.2 := by
  rw [List.mem_flatten]
  constructor
  · rintro ⟨workers, listed, among⟩
    obtain ⟨e, he, kept⟩ := List.mem_filterMap.mp listed
    by_cases isRelevant : e.1 ∈ relevant
    · rw [if_pos isRelevant] at kept
      cases kept
      exact ⟨e, he, isRelevant, among⟩
    · rw [if_neg isRelevant] at kept
      cases kept
  · rintro ⟨e, he, isRelevant, among⟩
    exact ⟨e.2, List.mem_filterMap.mpr ⟨e, he, if_pos isRelevant⟩, among⟩

theorem aggregateConsumers_eq_zero_iff {m : ActiveQueues} {relevant : List String} :
    aggregateConsumers (some m) relevant = 0 ↔ ∀ e ∈ m.arrivals, e.1 ∈ relevant → e.2 = [] := by
  rw [aggregateConsumers, List.length_eq_zero_iff, List.eq_nil_iff_forall_not_mem]
  simp only [mem_distinct, mem_aggregated]
  constructor
  · intro nobody e he isRelevant
    refine List.eq_nil_iff_forall_not_mem.mpr fun worker among => ?_
    exact nobody worker ⟨e, KeyedMap.mem_toList.mpr he, isRelevant, among⟩
  · rintro idle worker ⟨e, he, isRelevant, among⟩
    rw [idle e (KeyedMap.mem_toList.mp he) isRelevant] at among
    exact List.not_mem_nil among

theorem aggregateJobs_isPositive_iff {statuses : List QueueStatus}
    (nonneg : ∀ s ∈ statuses, s.pendingJobs.IsNonneg) :
    (aggregateJobs statuses).isPositive = true ↔
      ∃ s ∈ statuses, s.pendingJobs.isPositive = true := by
  rw [aggregateJobs, (Binary64.foldl_add_isPositive QueueStatus.pendingJobs statuses nonneg
    Binary64.isNonneg_zero).2]
  simp [Binary64.zero, Binary64.isPositive]

/-- The jobs of the queues that count, when some queues are gone through in order. -/
inductive Backlog (counts : QueueStatus → Prop) : List QueueStatus → Binary64 → Prop where
  | none : Backlog counts [] .zero
  | adds {queues : List QueueStatus} {q : QueueStatus} {total : Binary64} (counted : counts q)
      (before : Backlog counts queues total) :
      Backlog counts (queues ++ [q]) (total + q.pendingJobs)
  | skips {queues : List QueueStatus} {q : QueueStatus} {total : Binary64} (left : ¬ counts q)
      (before : Backlog counts queues total) : Backlog counts (queues ++ [q]) total

section Backlog

variable {counts : QueueStatus → Prop} [DecidablePred counts] {queues : List QueueStatus}

theorem aggregateJobs_filter_concat (q : QueueStatus) :
    aggregateJobs ((queues ++ [q]).filter counts) =
      if counts q then aggregateJobs (queues.filter counts) + q.pendingJobs
      else aggregateJobs (queues.filter counts) := by
  by_cases counted : counts q <;> simp [aggregateJobs, counted]

/-- There is one backlog only, that of the queues that count. -/
theorem backlog_iff {total : Binary64} :
    Backlog counts queues total ↔ total = aggregateJobs (queues.filter counts) := by
  constructor
  · intro backlog
    induction backlog with
    | none => rfl
    | adds counted _ ih => rw [aggregateJobs_filter_concat, if_pos counted, ih]
    | skips left _ ih => rw [aggregateJobs_filter_concat, if_neg left, ih]
  · rintro rfl
    induction queues using List.reverseRecOn with
    | nil => exact .none
    | append_singleton queues q ih =>
      rw [aggregateJobs_filter_concat]
      by_cases counted : counts q
      · rw [if_pos counted]
        exact .adds counted ih
      · rw [if_neg counted]
        exact .skips counted ih

end Backlog

/-- One of the workers bears an expected name. -/
def Recognised (expected workers : List String) : Prop :=
  ∃ worker ∈ workers, ∃ name ∈ expected, name.toList <:+: worker.toList

theorem hasExpectedWorker_iff {expected reported : List String} :
    hasExpectedWorker expected reported = true ↔ Recognised expected reported := by
  simp only [hasExpectedWorker, List.any_eq_true, Text.contains_iff]
  exact ⟨fun ⟨name, h, worker, h', within⟩ => ⟨worker, h', name, h, within⟩,
    fun ⟨worker, h', name, h, within⟩ => ⟨name, h, worker, h', within⟩⟩

instance (expected workers : List String) : Decidable (Recognised expected workers) :=
  decidable_of_iff _ hasExpectedWorker_iff

end JobWatch
