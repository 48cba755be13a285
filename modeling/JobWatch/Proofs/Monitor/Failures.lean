import JobWatch.Proofs.Backend.Openings
import JobWatch.Proofs.Delay
import JobWatch.Proofs.Watcher.Blame
import JobWatch.Script

/-!
# What a check fails with

A check over a backend of queues makes its round trips under the breaker, and whatever fails there
is reported as a failure of the backend. It also opens handles on its own, between its two readings,
and what fails there is passed on as it was thrown. The main statement says that this is the only
way in which a check fails with something of another kind, and exactly when it does: when the
reading of the backlog has gone through and a relevant queue that was not read and not held before
cannot be opened. Checks that hand their reading on to somebody are not spoken of.
-/

namespace JobWatch

open Run

variable {β : Type}

/-- A failure of one of the kinds that a check has for what can happen to it. -/
inductive Thrown.IsOfCheck (t : Thrown) : Prop
  | unavailable (h : t.isOf .backendUnavailable = true)
  | noWorkers (h : t.isOf .noWorkers = true)
  | aborted (h : t.isOf .aborted = true)
  | configuration (h : t.isOf .configuration = true)

/-- These kinds are all among the library's own. -/
theorem Thrown.IsOfCheck.isOf_general {t : Thrown} (own : t.IsOfCheck) :
    t.isOf .general = true := by
  cases t with
  | value v => rcases own with own | own | own | own <;> cases own
  | failure f =>
    cases f with
    | foreign mismatch message =>
      cases mismatch <;> rcases own with own | own | own | own <;> cases own
    | _ => rfl

namespace Monitor

/-! ## What fails in kind -/

section InKind

variable {σ : Type} {m : Monitor σ}

/-- All parts of a check but the opening of handles fail only as a check may. -/
structure FailsInKind (m : Monitor σ) : Prop where
  read : ∀ queues, Throws Thrown.IsOfCheck (m.backend.queueStatus queues)
  active : Throws Thrown.IsOfCheck m.backend.activeQueues
  look : Throws Thrown.IsOfCheck m.backend.workerIdentifiers
  busy : ∀ queues, Throws Thrown.IsOfCheck (m.backend.workersProcessing queues)
  sleep : ∀ ms, Throws Thrown.IsOfCheck (m.sleep ms)

theorem FailsInKind.lookForWorkers (inKind : m.FailsInKind) (expected : List String) (looks : Nat)
    (budget : Backoff) : Throws Thrown.IsOfCheck (m.lookForWorkers expected looks budget) := by
  induction looks generalizing budget with
  | zero => exact throws_unfinished
  | succ looks ih =>
    refine (throws_throwIfAborted (.aborted rfl)).bind fun _ =>
      inKind.look.bind fun running => (throws_log _ _ _ _).bind fun _ => ?_
    by_cases found : hasExpectedWorker expected running = true
    · simp only [if_pos found]
      exact throws_pure _
    · simp only [if_neg found]
      by_cases spent : budget.fail.isExhausted = true
      · simp only [if_pos spent]
        exact throws_fail (.noWorkers rfl)
      · simp only [if_neg spent]
        have sleeps : Throws Thrown.IsOfCheck (budget.fail.pause m.sleep) :=
          (throws_throwIfAborted (.aborted rfl)).bind fun _ => inKind.sleep _
        exact sleeps.bind fun _ => ih _

theorem throws_validate (seconds : Binary64) : Throws Thrown.IsOfCheck
    (require (Delay.validate seconds "sleepSeconds") : Run σ Unit) := by
  refine throws_require fun f refused => ?_
  obtain ⟨reason, rfl⟩ := Delay.configuration_of_validate refused
  exact .configuration rfl

theorem FailsInKind.awaitWorkers (inKind : m.FailsInKind) (view : JobView) (o : CheckOptions σ)
    (consumers : Nat) : Throws Thrown.IsOfCheck (m.awaitWorkers view o consumers) := by
  unfold Monitor.awaitWorkers
  by_cases deserted : consumers = 0
  · rw [if_pos deserted]
    have waits : Throws Thrown.IsOfCheck (m.waitForWorkers view o.sleepSeconds) :=
      (throws_validate _).bind fun _ => (throws_log _ _ _ _).bind fun _ =>
        inKind.lookForWorkers _ _ _
    exact waits.bind fun _ => throws_pure ()
  · rw [if_neg deserted]
    exact throws_pure ()

theorem FailsInKind.conclude (inKind : m.FailsInKind) (view : JobView) (o : CheckOptions σ)
    (statuses : StatusMap) (snapshot : ActiveSnapshot) :
    Throws Thrown.IsOfCheck (m.conclude view o statuses snapshot) := by
  have finds : Throws Thrown.IsOfCheck
      (m.findWork view (m.scope.totalJobs statuses view)) := by
    unfold Monitor.findWork
    by_cases queued : (m.scope.totalJobs statuses view).isPositive = true
    · rw [if_pos queued]
      exact throws_pure true
    · rw [if_neg queued]
      exact (throws_throwIfAborted (.aborted rfl)).bind fun _ => inKind.busy _
  exact (throws_log _ _ _ _).bind fun _ => (throws_log _ _ _ _).bind fun _ =>
    (inKind.awaitWorkers view o _).bind fun _ => finds.bind fun active =>
      (throws_log _ _ _ _).bind fun _ => throws_pure active

end InKind

variable {m : Monitor (Service β)} {b : QueueBackend β} {view : JobView}
  {o : CheckOptions (Service β)} {s : Session (Service β)}

/-- What is asked under the breaker fails in kind, whatever the broker throws. -/
theorem failsInKind_of_backed (backed : m.backend = b.backend)
    (sleeps : ∀ ms, Throws (· = .failure .aborted) (m.sleep ms)) : m.FailsInKind := by
  have guarded {α : Type} (operation : String) {trip : Run (Service β) α}
      (stops : ∀ s, StopsAtFault b.broker trip s) :
      Throws Thrown.IsOfCheck (b.roundTrip operation trip) := fun s t threw =>
    .unavailable (b.throws_unavailable operation stops s t threw)
  have active : Throws Thrown.IsOfCheck b.readActive :=
    guarded "queryActiveQueues" fun _ => b.stopsAtFault_active
  constructor
  case read => exact backed ▸ fun queues => guarded _ fun _ => b.stopsAtFault_readStatuses _ queues
  case active => exact backed ▸ active
  case look => exact backed ▸ active.bind fun _ => throws_pure _
  case busy => exact backed ▸ fun queues => guarded _ fun _ => b.stopsAtFault_anyProcessing queues
  case sleep =>
    intro ms s t threw
    obtain rfl := sleeps ms s t threw
    exact .aborted rfl

/-! ## Between the readings -/

/-- The queues whose backlog is read. -/
def queuesRead (view : JobView) (o : CheckOptions (Service β)) : List String :=
  o.statusQueues.getD view.relevantQueues

/-- The backlog can be read, and of the calls to open the handles that are missing then for the
relevant queues, `t` is what the first that fails throws. -/
structure OpensInVain (b : QueueBackend β) (view : JobView) (o : CheckOptions (Service β))
    (s : Session (Service β)) (t : Thrown) : Prop where
  valid : Delay.validate o.sleepSeconds "sleepSeconds" = .ok ()
  down : s.signal ≠ .raised
  admitted : s.outside.pool.Admits s.now
  answered : b.broker.allPass s.outside.broker
    (b.readingCalls s.outside.pool.handles (queuesRead view o)) = true
  failed : b.broker.firstFault?
    (b.broker.after s.outside.broker (b.readingCalls s.outside.pool.handles (queuesRead view o)))
    (b.openings ((queuesRead view o).foldl remember s.outside.pool.handles) view.relevantQueues) =
      some t

/-- What a check comes to that has read the backlog and hands it on to nobody. -/
theorem check_of_read (valid : Delay.validate o.sleepSeconds "sleepSeconds" = .ok ())
    (down : s.signal ≠ .raised) (unheard : o.onSnapshot = fun _ => pure ()) {statuses : StatusMap}
    (came : (m.backend.queueStatus (queuesRead view o) s).outcome = .returned statuses) :
    (m.check view o s).outcome =
      (m.decide view o statuses
        (m.backend.queueStatus (queuesRead view o) s).session).outcome := by
  rw [queuesRead] at came ⊢
  obtain ⟨lines, -, logged⟩ := log_bind m.logger .debug "queue status:" [.statuses statuses]
    (fun _ => m.decide view o statuses)
    (m.backend.queueStatus (o.statusQueues.getD view.relevantQueues) s).session
  rw [check_eq_decide, valid, require_ok_bind, throwIfAborted_bind, if_neg down, unheard]
  simp only [pure_bind]
  rw [bind_returned came]
  exact (congrArg Result.outcome logged :)

/-- Where the handles cannot be opened, the check ends with what was thrown at that. -/
theorem OpensInVain.threw {t : Thrown} (inVain : OpensInVain b view o s t)
    (backed : m.backend = b.backend) (unheard : o.onSnapshot = fun _ => pure ()) :
    (m.check view o s).outcome = .threw t := by
  obtain ⟨statuses, came⟩ := QueueBackend.queueStatus_of_answered inVain.admitted inVain.answered
  have read := QueueBackend.hasRead_of_returned came
  have watched : (b.watch view.relevantQueues
      (b.backend.queueStatus (queuesRead view o) s).session).outcome = .threw t := by
    rw [QueueBackend.watch_threw_iff read.used, read.handles, read.broker]
    exact inVain.failed
  rw [← backed] at came
  rw [check_of_read inVain.valid inVain.down unheard came, decide, backed]
  exact congrArg Result.outcome (bind_threw watched)

/-- Until it has read the backlog a check fails in kind. -/
theorem FailsInKind.read_of_threw (inKind : m.FailsInKind) {t : Thrown}
    (threw : (m.check view o s).outcome = .threw t) :
    t.IsOfCheck ∨
      Delay.validate o.sleepSeconds "sleepSeconds" = .ok () ∧ s.signal ≠ .raised ∧
        ∃ statuses, (m.backend.queueStatus (queuesRead view o) s).outcome = .returned statuses := by
  rw [check_eq_decide] at threw
  cases valid : Delay.validate o.sleepSeconds "sleepSeconds" with
  | error f =>
    rcases threw_of_bind threw with refused | ⟨u, accepted, -⟩
    · exact Or.inl (throws_validate _ s t refused)
    · rw [valid] at accepted
      cases accepted
  | ok u =>
    rw [valid, require_ok_bind, throwIfAborted_bind] at threw
    by_cases raised : s.signal = .raised
    · rw [if_pos raised] at threw
      cases threw
      exact Or.inl (.aborted rfl)
    · rw [if_neg raised] at threw
      rcases threw_of_bind threw with reading | ⟨statuses, came, -⟩
      · exact Or.inl (inKind.read _ s t reading)
      · exact Or.inr ⟨rfl, raised, statuses, came⟩

/-- From the second reading on a check fails in kind. -/
theorem FailsInKind.watch_of_threw (inKind : m.FailsInKind) {statuses : StatusMap} {t : Thrown}
    (threw : (m.decide view o statuses s).outcome = .threw t) :
    t.IsOfCheck ∨ (m.backend.watchQueues view.relevantQueues s).outcome = .threw t := by
  rcases threw_of_bind threw with opening | ⟨_, _, later⟩
  · exact Or.inr opening
  · have behind : Throws Thrown.IsOfCheck (do
        m.conclude view o statuses (← m.backend.activeQueues)) :=
      inKind.active.bind fun snapshot => inKind.conclude view o statuses snapshot
    exact Or.inl (behind _ t later)

/-- Where a check fails, it fails in kind, or with what was thrown at the opening of a handle. -/
theorem threw_cases (backed : m.backend = b.backend)
    (sleeps : ∀ ms, Throws (· = .failure .aborted) (m.sleep ms))
    (unheard : o.onSnapshot = fun _ => pure ()) {t : Thrown}
    (threw : (m.check view o s).outcome = .threw t) :
    t.IsOfCheck ∨ OpensInVain b view o s t := by
  have inKind := failsInKind_of_backed backed sleeps
  rcases inKind.read_of_threw threw with own | ⟨valid, down, statuses, came⟩
  · exact Or.inl own
  rw [check_of_read valid down unheard came] at threw
  rcases inKind.watch_of_threw threw with own | opening
  · exact Or.inl own
  rw [backed] at came opening
  have read := QueueBackend.hasRead_of_returned came
  have failed := (QueueBackend.watch_threw_iff read.used).mp opening
  rw [read.handles, read.broker] at failed
  exact Or.inr ⟨valid, down, read.admitted, read.answered, failed⟩

/-- A check of a backend over queues that fails in no kind of its own has read the backlog and then
failed to open a handle, and whenever that happens it fails with what was thrown at it. So it fails
with the library's own failures and no others exactly if no such opening throws anything else, and
it does so if every relevant queue has been read or was held before. -/
theorem check_fails_in_kind_iff (backed : m.backend = b.backend)
    (sleeps : ∀ ms, Throws (· = .failure .aborted) (m.sleep ms)) (view : JobView)
    (unheard : o.onSnapshot = fun _ => pure ()) (s : Session (Service β)) :
    (∀ t, (m.check view o s).outcome = .threw t → t.IsOfCheck ∨ OpensInVain b view o s t) ∧
      (∀ t, OpensInVain b view o s t → (m.check view o s).outcome = .threw t) ∧
      ((∀ t, (m.check view o s).outcome = .threw t → t.isOf .general = true) ↔
        ∀ t, OpensInVain b view o s t → t.isOf .general = true) ∧
      ((∀ queue ∈ view.relevantQueues,
          queue ∈ s.outside.pool.handles ∨ queue ∈ queuesRead view o) →
        ∀ t, ¬ OpensInVain b view o s t) := by
  refine ⟨fun t => threw_cases backed sleeps unheard, fun t inVain =>
    inVain.threw backed unheard, ⟨fun own t inVain => ?_, fun own t threw => ?_⟩,
    fun all t inVain => ?_⟩
  · exact own t (inVain.threw backed unheard)
  · exact (threw_cases backed sleeps unheard threw).elim (·.isOf_general) (own t)
  · have failed := inVain.failed
    rw [QueueBackend.openings_eq_nil fun queue relevant =>
      mem_foldl_remember.mpr (all queue relevant)] at failed
    cases failed

/-- The queue `b` cannot be opened. It is not read, and only the first check has to watch it. -/
theorem check_fails_in_kind_of_two_views :
    let boom : Thrown := .failure (.plain "boom")
    let play : Play := { queues := [("b", { opening := [.error boom] })] }
    let b : QueueBackend Play := ⟨Play.broker, Log.Logger.silent, none⟩
    let m : Monitor (Service Play) := ⟨b.backend, Log.Logger.silent, .all, Run.pause⟩
    let o : CheckOptions (Service Play) := ⟨1, some ["a"], fun _ => pure ()⟩
    let s : Session (Service Play) := Session.start 0 (Service.start "ready" play)
    (m.check ⟨["a", "b"], ["w"]⟩ o s).outcome = .threw boom ∧
      ∀ t, (m.check ⟨["a"], ["w"]⟩ o s).outcome = .threw t → t.isOf .general = true := by
  intro boom play b m o s
  have sleeps : ∀ ms, Throws (· = .failure .aborted) (m.sleep ms) := fun ms =>
    throws_pause (by rfl) ms
  have inVain : OpensInVain b ⟨["a", "b"], ["w"]⟩ o s boom :=
    { valid := Delay.validate_eq_ok (by decide +kernel) _
      down := nofun
      admitted := by decide
      answered := by decide +kernel
      failed := rfl }
  have watched := check_fails_in_kind_iff (b := b) rfl sleeps ⟨["a", "b"], ["w"]⟩ (o := o) rfl s
  have read := check_fails_in_kind_iff (b := b) rfl sleeps ⟨["a"], ["w"]⟩ (o := o) rfl s
  refine ⟨watched.2.1 boom inVain, read.2.2.1.mpr fun t failed => ?_⟩
  exact absurd failed (read.2.2.2 (by decide) t)

/-- The check fails with what the broker has thrown, as it was thrown. -/
theorem check_fails_with_foreign_failure :
    let play : Play := { queues := [("b", { opening := [.error (.failure (.plain "boom"))] })] }
    let b : QueueBackend Play := ⟨Play.broker, Log.Logger.silent, none⟩
    let m : Monitor (Service Play) := ⟨b.backend, Log.Logger.silent, .all, Run.pause⟩
    let s : Session (Service Play) := Session.start 0 (Service.start "ready" play)
    let check := m.check ⟨["a", "b"], ["w"]⟩ ⟨0, some ["a"], fun _ => pure ()⟩ s
    check.outcome.thrown?.map (fun t => (t.message, t.isOf .general)) = some ("boom", false) := by
  decide +kernel

end Monitor

end JobWatch
