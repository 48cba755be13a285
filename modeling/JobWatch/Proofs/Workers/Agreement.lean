import JobWatch.Proofs.Monitor.Phases
import JobWatch.Proofs.Workers.Listing
import Mathlib.Data.Set.Card

/-!
# Checks and listings agree

A check counts the workers subscribed to the relevant queues, and a wait looks for expected names
among all workers. A listing turns the same reading around. The main statement says that they find
the same workers, so that a check waits exactly where a listing is empty. Over no queues and for no
names at all they differ, and nothing is said of that.
-/

namespace JobWatch

/-- The workers subscribed to one of the queues. -/
def subscribers (active : Option ActiveQueues) (queues : List String) : Set String :=
  {worker | ∃ queue ∈ queues, Subscribed active queue worker}

theorem ncard_members {α : Type} [DecidableEq α] {xs : List α} (unique : xs.Nodup) :
    {x | x ∈ xs}.ncard = xs.length := by
  rw [← List.coe_toFinset, Set.ncard_coe_finset, List.toFinset_card_of_nodup unique]

/-! ## Counting -/

/-- What is counted is a list of the subscribers, without repeats. -/
theorem exists_aggregated (active : Option ActiveQueues) (relevant : List String) :
    ∃ workers : List String, workers.Nodup ∧
      (∀ worker, worker ∈ workers ↔ worker ∈ subscribers active relevant) ∧
      aggregateConsumers active relevant = workers.length := by
  cases active with
  | none =>
    refine ⟨[], List.nodup_nil, fun worker => iff_of_false List.not_mem_nil ?_, rfl⟩
    rintro ⟨queue, _, workers, listed, _⟩
    exact List.not_mem_nil listed
  | some m =>
    refine ⟨_, nodup_distinct _, fun worker => ?_, rfl⟩
    rw [mem_distinct, mem_aggregated]
    constructor
    · rintro ⟨e, listed, isRelevant, among⟩
      exact ⟨e.1, isRelevant, e.2, listed, among⟩
    · rintro ⟨queue, isRelevant, workers, listed, among⟩
      exact ⟨(queue, workers), listed, isRelevant, among⟩

theorem aggregateConsumers_eq_ncard (active : Option ActiveQueues) (relevant : List String) :
    aggregateConsumers active relevant = (subscribers active relevant).ncard := by
  obtain ⟨workers, unique, same, counted⟩ := exists_aggregated active relevant
  rw [counted, ← ncard_members unique]
  exact congrArg Set.ncard (Set.ext same)

theorem aggregateConsumers_eq_zero {active : Option ActiveQueues} {relevant : List String} :
    aggregateConsumers active relevant = 0 ↔ subscribers active relevant = ∅ := by
  obtain ⟨workers, _, same, counted⟩ := exists_aggregated active relevant
  rw [counted, List.length_eq_zero_iff, List.eq_nil_iff_forall_not_mem,
    Set.eq_empty_iff_forall_notMem]
  exact forall_congr' fun worker => not_congr (same worker)

theorem Listing.length_eq_ncard {active : Option ActiveQueues} {q : WorkerQuery}
    {infos : List WorkerInfo} (h : Listing active q infos) :
    infos.length = {worker | worker ∈ infos.map (·.worker)}.ncard := by
  rw [ncard_members h.ascending.nodup, List.length_map]

/-- Asked for some queues alone, a query admits those subscribed to one of them. -/
theorem Listing.mem_of_queues {active : Option ActiveQueues} {relevant : List String}
    {infos : List WorkerInfo} (h : Listing active { queues := relevant } infos)
    (some_queue : relevant ≠ []) (worker : String) :
    worker ∈ infos.map (·.worker) ↔ worker ∈ subscribers active relevant := by
  rw [h.workers]
  constructor
  · rintro ⟨_, admitted⟩
    exact admitted.subscribed.resolve_left some_queue
  · rintro ⟨queue, asked, subscribed⟩
    exact ⟨⟨queue, subscribed⟩, Or.inl rfl, Or.inr ⟨queue, asked, subscribed⟩, .absent⟩

theorem Listing.length_of_queues {active : Option ActiveQueues} {relevant : List String}
    {infos : List WorkerInfo} (h : Listing active { queues := relevant } infos)
    (some_queue : relevant ≠ []) : infos.length = aggregateConsumers active relevant := by
  rw [aggregateConsumers_eq_ncard, h.length_eq_ncard]
  exact congrArg Set.ncard (Set.ext (h.mem_of_queues some_queue))

/-- Asked for some names alone, a query admits those whose name has one of them in it. -/
theorem Listing.mem_of_names {active : Option ActiveQueues} {names : List String}
    {infos : List WorkerInfo} (h : Listing active { workerNames := names } infos)
    (some_name : names ≠ []) (worker : String) :
    worker ∈ infos.map (·.worker) ↔
      (∃ queue, Subscribed active queue worker) ∧
        ∃ name ∈ names, name.toList <:+: worker.toList := by
  rw [h.workers]
  refine and_congr_right fun _ => ⟨fun admitted => admitted.named.resolve_left some_name, ?_⟩
  exact fun named => ⟨Or.inr named, Or.inl rfl, .absent⟩

/-! ## Waiting -/

namespace Monitor

variable {σ : Type}

/-- Waits for workers if a listing of the relevant queues' workers is empty. -/
def awaitListed (m : Monitor σ) (view : JobView) (o : CheckOptions σ)
    (active : Option ActiveQueues) : Run σ Unit :=
  match filterWorkers active { queues := view.relevantQueues } with
  | .ok [] => do
    let _ ← m.waitForWorkers view o.sleepSeconds
    return ()
  | _ => return ()

/-- A check that asks for a listing to find out whether it has to wait. -/
def checkByListing (m : Monitor σ) (view : JobView) (o : CheckOptions σ) : Run σ Bool := do
  Run.require (Delay.validate o.sleepSeconds "sleepSeconds")
  Run.throwIfAborted
  let statuses ← m.readBacklog view o
  let snapshot ← m.backend.activeQueues
  m.logger.debug "active queues:" [.activeQueues snapshot.activeQueues]
  m.logger.info ("found " ++ (m.scope.totalJobs statuses view).text ++ " jobs in queues and "
    ++ toString (aggregateConsumers snapshot.activeQueues view.relevantQueues) ++ " workers alive")
  m.awaitListed view o snapshot.activeQueues
  let active ← m.findWork view (m.scope.totalJobs statuses view)
  m.logger.debug ("active tasks: " ++ (if active then "true" else "false")) []
  return active

theorem awaitListed_eq (m : Monitor σ) {view : JobView} (o : CheckOptions σ)
    (active : Option ActiveQueues) (some_queue : view.relevantQueues ≠ []) :
    m.awaitListed view o active =
      m.awaitWorkers view o (aggregateConsumers active view.relevantQueues) := by
  obtain ⟨infos, answer, listing⟩ :=
    exists_listing active (q := { queues := view.relevantQueues }) .absent
  rw [awaitListed, answer, awaitWorkers, ← listing.length_of_queues some_queue]
  cases infos <;> rfl

theorem checkByListing_eq (m : Monitor σ) {view : JobView} (o : CheckOptions σ)
    (some_queue : view.relevantQueues ≠ []) : m.checkByListing view o = m.check view o := by
  rw [check_eq]
  simp only [checkByListing, conclude, m.awaitListed_eq o _ some_queue]

end Monitor

/-- Over some queues, a check counts the workers subscribed to one of them, each once, however
often the queues are named; a listing of these queues is as long; and a check that waits where the
listing is empty is the check. For some names, one is recognised among all workers of a reading
exactly if a listing for these names is not empty. -/
theorem check_agrees_with_listing (active : Option ActiveQueues) {relevant names : List String}
    (some_queue : relevant ≠ []) (some_name : names ≠ []) :
    aggregateConsumers active relevant = (subscribers active relevant).ncard ∧
      (∀ relevant', (∀ queue, queue ∈ relevant' ↔ queue ∈ relevant) →
        aggregateConsumers active relevant' = aggregateConsumers active relevant) ∧
      (∃ infos, filterWorkers active { queues := relevant } = .ok infos ∧
        infos.length = aggregateConsumers active relevant) ∧
      (∀ reported, (∀ worker, worker ∈ reported ↔ ∃ queue, Subscribed active queue worker) →
        (hasExpectedWorker names reported = true ↔
          ∃ infos, filterWorkers active { workerNames := names } = .ok infos ∧ infos ≠ [])) ∧
      ∀ (σ : Type) (m : Monitor σ) (view : JobView) (o : CheckOptions σ),
        view.relevantQueues = relevant → m.check view o = m.checkByListing view o := by
  refine ⟨aggregateConsumers_eq_ncard active relevant, ?_, ?_, ?_, ?_⟩
  · intro relevant' same
    rw [aggregateConsumers_eq_ncard, aggregateConsumers_eq_ncard]
    simp only [subscribers, same]
  · obtain ⟨infos, answer, listing⟩ :=
      exists_listing active (q := { queues := relevant }) .absent
    exact ⟨infos, answer, listing.length_of_queues some_queue⟩
  · intro reported all
    obtain ⟨infos, answer, listing⟩ :=
      exists_listing active (q := { workerNames := names }) .absent
    have nonempty : infos ≠ [] ↔ ∃ worker, worker ∈ infos.map (·.worker) := by
      rw [← List.length_pos_iff_exists_mem, List.length_map, List.length_pos_iff]
    rw [hasExpectedWorker_iff, answer]
    simp only [Recognised, Except.ok.injEq, exists_eq_left', nonempty, all,
      listing.mem_of_names some_name]
  · rintro σ m view o rfl
    exact (m.checkByListing_eq o some_queue).symm

/-- One of the workers is on both queues that are asked for, and one queue is named twice. -/
theorem check_agrees_with_listing_on_shared_worker :
    let active : Option ActiveQueues := some
      (((KeyedMap.empty.file "a" ["w1@h", "w2@h"]).file "b" ["w2@h", "w3@h"]).file "c" ["w4@h"])
    (subscribers active ["a", "b", "a"]).ncard = 3 ∧
      ∃ infos, filterWorkers active { queues := ["a", "b", "a"] } = .ok infos ∧
        infos.length = 3 := by
  intro active
  have some_queue : ["a", "b", "a"] ≠ [] := by decide
  have some_name : ["w2"] ≠ [] := by decide
  have agrees := check_agrees_with_listing active some_queue some_name
  have counted : aggregateConsumers active ["a", "b", "a"] = 3 := by decide +kernel
  obtain ⟨infos, answer, long⟩ := agrees.2.2.1
  exact ⟨agrees.1.symm.trans counted, infos, answer, long.trans counted⟩

end JobWatch
