import JobWatch.Monitor.Loop
import JobWatch.Proofs.Backend.Walk
import JobWatch.Proofs.Monitor.Phases
import JobWatch.Proofs.Run.Comes
import JobWatch.Proofs.Run.Mirrors
import JobWatch.Proofs.Run.Spans

/-!
# Walking through a check

A check touches what is around it only through its backend, through whoever is handed the reading
and through the way it sleeps. So what is known of these parts is known of the check, and of any
number of checks. The walk is made here once for each of three things that may be known of a run:
where it leads, what it comes to, and which run it mirrors. Looks for workers, the question
whether one is busy and sleeps only follow a look at the signal, and are taken together with it.
-/

namespace JobWatch

open Run

variable {σ τ : Type}

namespace Monitor

/-! ## Where a check leads -/

section Spans

variable {R : Session σ → List Event → Session σ → Prop} {m : Monitor σ}

/-- The parts of a check that come after its two readings lead as described. -/
structure Leads (m : Monitor σ) (R : Session σ → List Event → Session σ → Prop) : Prop where
  look : Spans R (do throwIfAborted; m.backend.workerIdentifiers)
  busy : ∀ queues, Spans R (do throwIfAborted; m.backend.workersProcessing queues)
  sleep : ∀ ms, Spans R (do throwIfAborted; m.sleep ms)

theorem Leads.lookForWorkers (leads : m.Leads R) (composes : Composes R) (expected : List String)
    (looks : Nat) (budget : Backoff) : Spans R (m.lookForWorkers expected looks budget) := by
  induction looks generalizing budget with
  | zero => exact composes.unfinished
  | succ looks ih =>
    rw [Monitor.lookForWorkers, ← bind_assoc]
    refine composes.bind leads.look fun running => composes.bind (composes.log _ _ _ _) fun _ => ?_
    by_cases found : hasExpectedWorker expected running = true
    · simp only [if_pos found]
      exact composes.pure _
    · simp only [if_neg found]
      by_cases spent : budget.fail.isExhausted = true
      · simp only [if_pos spent]
        exact composes.fail _
      · simp only [if_neg spent]
        exact composes.bind (leads.sleep _) fun _ => ih _

theorem Leads.waitForWorkers (leads : m.Leads R) (composes : Composes R) (view : JobView)
    (seconds : Binary64) : Spans R (m.waitForWorkers view seconds) :=
  composes.bind (composes.require _) fun _ => composes.bind (composes.log _ _ _ _) fun _ =>
    leads.lookForWorkers composes _ _ _

theorem Leads.awaitWorkers (leads : m.Leads R) (composes : Composes R) (view : JobView)
    (o : CheckOptions σ) (consumers : Nat) : Spans R (m.awaitWorkers view o consumers) := by
  unfold Monitor.awaitWorkers
  by_cases deserted : consumers = 0
  · rw [if_pos deserted]
    exact composes.bind (leads.waitForWorkers composes view _) fun _ => composes.pure ()
  · rw [if_neg deserted]
    exact composes.pure ()

theorem Leads.findWork (leads : m.Leads R) (composes : Composes R) (view : JobView)
    (jobs : Binary64) : Spans R (m.findWork view jobs) := by
  unfold Monitor.findWork
  by_cases queued : jobs.isPositive = true
  · rw [if_pos queued]
    exact composes.pure true
  · rw [if_neg queued]
    exact leads.busy _

theorem Leads.conclude (leads : m.Leads R) (composes : Composes R) (view : JobView)
    (o : CheckOptions σ) (statuses : StatusMap) (snapshot : ActiveSnapshot) :
    Spans R (m.conclude view o statuses snapshot) :=
  composes.bind (composes.log _ _ _ _) fun _ => composes.bind (composes.log _ _ _ _) fun _ =>
    composes.bind (leads.awaitWorkers composes view o _) fun _ =>
      composes.bind (leads.findWork composes view _) fun active =>
        composes.bind (composes.log _ _ _ _) fun _ => composes.pure active

theorem Leads.decide (leads : m.Leads R) (composes : Composes R) (view : JobView)
    (o : CheckOptions σ) (watch : ∀ queues, Spans R (m.backend.watchQueues queues))
    (active : Spans R m.backend.activeQueues) (statuses : StatusMap) :
    Spans R (m.decide view o statuses) :=
  composes.bind (watch _) fun _ => composes.bind active fun snapshot =>
    leads.conclude composes view o statuses snapshot

theorem Leads.check (leads : m.Leads R) (composes : Composes R) (view : JobView)
    {o : CheckOptions σ} (read : ∀ queues, Spans R (m.backend.queueStatus queues))
    (handOn : ∀ statuses, Spans R (o.onSnapshot statuses))
    (watch : ∀ queues, Spans R (m.backend.watchQueues queues))
    (active : Spans R m.backend.activeQueues) : Spans R (m.check view o) := by
  rw [check_eq_decide]
  exact composes.bind (composes.require _) fun _ => composes.bind composes.throwIfAborted fun _ =>
    composes.bind (read _) fun statuses => composes.bind (composes.log _ _ _ _) fun _ =>
      composes.bind (handOn statuses) fun _ =>
        leads.decide composes view o watch active statuses

/-- What comes after the readings leads where the backend and the sleeps lead. -/
theorem leads_of_guides (composes : Composes R) (guides : m.backend.Guides R)
    (sleep : ∀ ms, Spans R (m.sleep ms)) : m.Leads R where
  look := composes.bind composes.throwIfAborted fun _ => guides.workerIdentifiers
  busy := fun queues =>
    composes.bind composes.throwIfAborted fun _ => guides.workersProcessing queues
  sleep := fun ms => composes.bind composes.throwIfAborted fun _ => sleep ms

/-- A check leads where its backend, its sleeps and whoever is handed the reading lead. -/
theorem spans_check (composes : Composes R) (guides : m.backend.Guides R)
    (sleep : ∀ ms, Spans R (m.sleep ms)) (view : JobView) {o : CheckOptions σ}
    (handOn : ∀ statuses, Spans R (o.onSnapshot statuses)) : Spans R (m.check view o) :=
  (leads_of_guides composes guides sleep).check composes view guides.queueStatus handOn
    guides.watchQueues guides.activeQueues

end Spans

/-! ## What a check comes to -/

section Comes

variable {m : Monitor σ} {holds : Nat → Session σ → Prop} {fails : Thrown → Session σ → Prop}

/-- The parts of a check come to what is described. The description may speak of how many looks
for workers the check has made. Looks, questions and sleeps begin with the signal down. -/
structure Delivers (m : Monitor σ) (holds : Nat → Session σ → Prop)
    (fails : Thrown → Session σ → Prop) : Prop where
  aborted : ∀ looks s, holds looks s → s.signal = .raised → fails (.failure .aborted) s
  read : ∀ looks queues, Comes (fun s => holds looks s ∧ s.signal ≠ .raised)
    (m.backend.queueStatus queues) (fun _ => holds 0) fails
  watch : ∀ looks queues,
    Comes (holds looks) (m.backend.watchQueues queues) (fun _ => holds looks) fails
  active : ∀ looks, Comes (holds looks) m.backend.activeQueues (fun _ => holds looks) fails
  look : ∀ looks, Comes (fun s => holds looks s ∧ s.signal ≠ .raised)
    m.backend.workerIdentifiers (fun _ => holds (looks + 1)) fails
  busy : ∀ looks queues, Comes (fun s => holds looks s ∧ s.signal ≠ .raised)
    (m.backend.workersProcessing queues) (fun _ => holds looks) fails
  sleep : ∀ looks ms, Comes (fun s => holds looks s ∧ s.signal ≠ .raised)
    (m.sleep ms) (fun _ => holds looks) fails

theorem Delivers.lookForWorkers (delivers : m.Delivers holds fails) {expected : List String}
    (inVain : ∀ s, holds maxWorkerChecks s →
      fails (.failure (.noWorkers expected (Binary64.ofNat maxWorkerChecks))) s)
    {looks : Nat} {budget : Backoff} (limit : budget.limit = Binary64.ofNat maxWorkerChecks)
    (left : budget.attempts + looks = maxWorkerChecks) (more : 0 < looks) :
    Comes (holds budget.attempts) (m.lookForWorkers expected looks budget)
      (fun _ s => ∃ looks, holds looks s) fails := by
  induction looks generalizing budget with
  | zero => exact absurd more (Nat.lt_irrefl 0)
  | succ looks ih =>
    refine (comes_throwIfAborted (delivers.aborted _)).bind fun _ =>
      (delivers.look _).bind fun running => (comes_log _ _ _ _).bind fun _ => ?_
    by_cases found : hasExpectedWorker expected running = true
    · simp only [if_pos found]
      exact comes_pure fun s still => ⟨_, still⟩
    · simp only [if_neg found]
      have limit' : budget.fail.limit = Binary64.ofNat maxWorkerChecks := limit
      have attempts : budget.fail.attempts = budget.attempts + 1 := rfl
      by_cases last : looks = 0
      · have spent : budget.fail.isExhausted = true := (isExhausted_iff limit').mpr (by omega)
        have used : budget.fail.attempts = maxWorkerChecks := by omega
        simp only [if_pos spent, used]
        refine comes_fail fun s still => inVain s ?_
        rw [← used]
        exact still
      · have unspent : ¬ budget.fail.isExhausted = true := by
          rw [isExhausted_iff limit']
          omega
        simp only [if_neg unspent]
        have pauses : Comes (holds budget.fail.attempts) (budget.fail.pause m.sleep)
            (fun _ => holds budget.fail.attempts) fails :=
          (comes_throwIfAborted (delivers.aborted _)).bind fun _ => delivers.sleep _ _
        exact pauses.bind fun _ => ih limit' (by omega) (by omega)

theorem Delivers.awaitWorkers (delivers : m.Delivers holds fails) {view : JobView}
    (inVain : ∀ s, holds maxWorkerChecks s →
      fails (.failure (.noWorkers view.expectedWorkers (Binary64.ofNat maxWorkerChecks))) s)
    {o : CheckOptions σ} (valid : Delay.validate o.sleepSeconds "sleepSeconds" = .ok ())
    (consumers : Nat) :
    Comes (holds 0) (m.awaitWorkers view o consumers) (fun _ s => ∃ looks, holds looks s)
      fails := by
  unfold Monitor.awaitWorkers
  by_cases deserted : consumers = 0
  · rw [if_pos deserted]
    have waits : Comes (holds 0) (m.waitForWorkers view o.sleepSeconds)
        (fun _ s => ∃ looks, holds looks s) fails := by
      let budget := Backoff.new (Binary64.ofNat maxWorkerChecks) (Delay.ofSeconds o.sleepSeconds)
      have used : budget.attempts = 0 := by simp only [budget, Backoff.new]
      have looks : Comes (holds budget.attempts)
          (m.lookForWorkers view.expectedWorkers maxWorkerChecks budget)
          (fun _ s => ∃ looks, holds looks s) fails :=
        delivers.lookForWorkers inVain (by simp only [budget, Backoff.new])
          (by rw [used, Nat.zero_add]) (by decide)
      rw [used] at looks
      exact (comes_require valid).bind fun _ => (comes_log _ _ _ _).bind fun _ => looks
    exact waits.bind fun _ => comes_pure fun _ still => still
  · rw [if_neg deserted]
    exact comes_pure fun s still => ⟨0, still⟩

theorem Delivers.findWork (delivers : m.Delivers holds fails) (view : JobView) (jobs : Binary64) :
    Comes (fun s => ∃ looks, holds looks s) (m.findWork view jobs)
      (fun _ s => ∃ looks, holds looks s) fails := by
  unfold Monitor.findWork
  by_cases queued : jobs.isPositive = true
  · rw [if_pos queued]
    exact comes_pure fun _ still => still
  · rw [if_neg queued]
    refine Comes.of_exists fun looks => (comes_throwIfAborted (delivers.aborted looks)).bind
      fun _ => (delivers.busy looks view.relevantQueues).of_post fun _ _ still => ⟨looks, still⟩

/-- A check over parts that come to what is described comes to it itself. It is never cut off. -/
theorem Delivers.check (delivers : m.Delivers holds fails) {view : JobView}
    (inVain : ∀ s, holds maxWorkerChecks s →
      fails (.failure (.noWorkers view.expectedWorkers (Binary64.ofNat maxWorkerChecks))) s)
    {o : CheckOptions σ} (valid : Delay.validate o.sleepSeconds "sleepSeconds" = .ok ())
    (handOn : ∀ statuses, Comes (holds 0) (o.onSnapshot statuses) (fun _ => holds 0) fails) :
    Comes (fun s => ∃ looks, holds looks s) (m.check view o) (fun _ s => ∃ looks, holds looks s)
      fails := by
  rw [check_eq_decide]
  refine Comes.of_exists fun looks => (comes_require valid).bind fun _ =>
    (comes_throwIfAborted (delivers.aborted looks)).bind fun _ =>
      (delivers.read looks _).bind fun statuses => (comes_log _ _ _ _).bind fun _ =>
        (handOn statuses).bind fun _ => (delivers.watch 0 _).bind fun _ =>
          (delivers.active 0).bind fun snapshot => ?_
  exact (comes_log _ _ _ _).bind fun _ => (comes_log _ _ _ _).bind fun _ =>
    (delivers.awaitWorkers inVain valid _).bind fun _ =>
      (delivers.findWork view _).bind fun active =>
        (comes_log _ _ _ _).bind fun _ => comes_pure fun _ still => still

/-- A check over parts that are never cut off is never cut off itself. -/
theorem check_concludes (read : ∀ queues, Concludes (m.backend.queueStatus queues))
    (watch : ∀ queues, Concludes (m.backend.watchQueues queues))
    (active : Concludes m.backend.activeQueues) (look : Concludes m.backend.workerIdentifiers)
    (busy : ∀ queues, Concludes (m.backend.workersProcessing queues))
    (sleep : ∀ ms, Concludes (m.sleep ms)) (view : JobView) {o : CheckOptions σ}
    (valid : Delay.validate o.sleepSeconds "sleepSeconds" = .ok ())
    (handOn : ∀ statuses, Concludes (o.onSnapshot statuses)) : Concludes (m.check view o) := by
  have delivers : m.Delivers (fun _ _ => True) fun _ _ => True :=
    { aborted := fun _ _ _ _ => trivial
      read := fun _ queues => (read queues).of_pre fun _ _ => trivial
      watch := fun _ queues => watch queues
      active := fun _ => active
      look := fun _ => look.of_pre fun _ _ => trivial
      busy := fun _ queues => (busy queues).of_pre fun _ _ => trivial
      sleep := fun _ ms => (sleep ms).of_pre fun _ _ => trivial }
  exact ((delivers.check (fun _ _ => trivial) valid handOn).of_pre fun _ _ =>
    ⟨0, trivial⟩).of_post fun _ _ _ => trivial

end Comes

/-! ## Which check a check mirrors -/

section Mirrors

variable {plain : Session τ → Session σ} {m' : Monitor τ} {m : Monitor σ}

/-- Two monitors that speak and count alike, the parts of one mirroring those of the other. -/
structure Reflects (plain : Session τ → Session σ) (m' : Monitor τ) (m : Monitor σ) : Prop where
  logger : m'.logger = m.logger
  scope : m'.scope = m.scope
  read : ∀ queues, Mirrors plain (m'.backend.queueStatus queues) (m.backend.queueStatus queues)
  watch : ∀ queues, Mirrors plain (m'.backend.watchQueues queues) (m.backend.watchQueues queues)
  active : Mirrors plain m'.backend.activeQueues m.backend.activeQueues
  look : Mirrors plain m'.backend.workerIdentifiers m.backend.workerIdentifiers
  busy : ∀ queues, Mirrors plain (m'.backend.workersProcessing queues)
    (m.backend.workersProcessing queues)
  sleep : ∀ ms, Mirrors plain (m'.sleep ms) (m.sleep ms)

theorem Reflects.lookForWorkers (reflects : Reflects plain m' m) (erases : Erases plain)
    (expected : List String) (looks : Nat) (budget : Backoff) :
    Mirrors plain (m'.lookForWorkers expected looks budget)
      (m.lookForWorkers expected looks budget) := by
  induction looks generalizing budget with
  | zero => exact mirrors_unfinished
  | succ looks ih =>
    rw [Monitor.lookForWorkers, Monitor.lookForWorkers, reflects.logger]
    refine (mirrors_throwIfAborted erases).bind fun _ => reflects.look.bind fun running =>
      (mirrors_log erases _ _ _ _).bind fun _ => ?_
    by_cases found : hasExpectedWorker expected running = true
    · simp only [if_pos found]
      exact mirrors_pure _
    · simp only [if_neg found]
      by_cases spent : budget.fail.isExhausted = true
      · simp only [if_pos spent]
        exact mirrors_fail _
      · simp only [if_neg spent]
        exact ((mirrors_throwIfAborted erases).bind fun _ => reflects.sleep _).bind fun _ => ih _

theorem Reflects.readBacklog (reflects : Reflects plain m' m) (erases : Erases plain)
    (view : JobView) {o' : CheckOptions τ} {o : CheckOptions σ}
    (sameQueues : o'.statusQueues = o.statusQueues)
    (handOn : ∀ statuses, Mirrors plain (o'.onSnapshot statuses) (o.onSnapshot statuses)) :
    Mirrors plain (m'.readBacklog view o') (m.readBacklog view o) := by
  unfold Monitor.readBacklog
  rw [sameQueues, reflects.logger]
  exact (reflects.read _).bind fun statuses => (mirrors_log erases _ _ _ _).bind fun _ =>
    (handOn statuses).bind fun _ => (reflects.watch _).bind fun _ => mirrors_pure statuses

theorem Reflects.awaitWorkers (reflects : Reflects plain m' m) (erases : Erases plain)
    (view : JobView) {o' : CheckOptions τ} {o : CheckOptions σ}
    (samePace : o'.sleepSeconds = o.sleepSeconds) (consumers : Nat) :
    Mirrors plain (m'.awaitWorkers view o' consumers) (m.awaitWorkers view o consumers) := by
  unfold Monitor.awaitWorkers
  rw [samePace]
  by_cases deserted : consumers = 0
  · rw [if_pos deserted, if_pos deserted]
    have waits : Mirrors plain (m'.waitForWorkers view o.sleepSeconds)
        (m.waitForWorkers view o.sleepSeconds) := by
      unfold Monitor.waitForWorkers
      rw [reflects.logger]
      exact (mirrors_require _).bind fun _ => (mirrors_log erases _ _ _ _).bind fun _ =>
        reflects.lookForWorkers erases _ _ _
    exact waits.bind fun _ => mirrors_pure ()
  · rw [if_neg deserted, if_neg deserted]
    exact mirrors_pure ()

theorem Reflects.findWork (reflects : Reflects plain m' m) (erases : Erases plain)
    (view : JobView) (jobs : Binary64) :
    Mirrors plain (m'.findWork view jobs) (m.findWork view jobs) := by
  unfold Monitor.findWork
  by_cases queued : jobs.isPositive = true
  · rw [if_pos queued, if_pos queued]
    exact mirrors_pure true
  · rw [if_neg queued, if_neg queued]
    exact (mirrors_throwIfAborted erases).bind fun _ => reflects.busy _

theorem Reflects.check (reflects : Reflects plain m' m) (erases : Erases plain) (view : JobView)
    {o' : CheckOptions τ} {o : CheckOptions σ} (samePace : o'.sleepSeconds = o.sleepSeconds)
    (sameQueues : o'.statusQueues = o.statusQueues)
    (handOn : ∀ statuses, Mirrors plain (o'.onSnapshot statuses) (o.onSnapshot statuses)) :
    Mirrors plain (m'.check view o') (m.check view o) := by
  rw [check_eq, check_eq, samePace]
  refine (mirrors_require _).bind fun _ => (mirrors_throwIfAborted erases).bind fun _ =>
    (reflects.readBacklog erases view sameQueues handOn).bind fun statuses =>
      reflects.active.bind fun snapshot => ?_
  unfold Monitor.conclude
  rw [reflects.logger, reflects.scope]
  exact (mirrors_log erases _ _ _ _).bind fun _ => (mirrors_log erases _ _ _ _).bind fun _ =>
    (reflects.awaitWorkers erases view samePace _).bind fun _ =>
      (reflects.findWork erases view _).bind fun active =>
        (mirrors_log erases _ _ _ _).bind fun _ => mirrors_pure active

end Mirrors

end Monitor

namespace MonitorLoop

/-! ## Any number of checks -/

/-- What each check has to keep to. -/
def checkOptions (o : WatchOptions σ) : CheckOptions σ := ⟨o.sleepSeconds, o.statusQueues, o.report⟩

/-- What comes between two checks. -/
def rest (l : MonitorLoop σ) (o : WatchOptions σ) : Run σ Unit := do
  l.logger.info "found tasks in queues and/or tasks being processed"
  l.sleep (Delay.ofSeconds o.sleepSeconds)

theorem checkUntilIdle_succ (l : MonitorLoop σ) (view : JobView) (o : WatchOptions σ)
    (left done : Nat) :
    l.checkUntilIdle view o (left + 1) done = (do
      let active ← l.monitor.check view (checkOptions o)
      if !active then return done + 1
      l.rest o
      l.checkUntilIdle view o left (done + 1)) := by
  rw [checkUntilIdle]
  refine bind_congr fun active => ?_
  cases active with
  | false => rfl
  | true => simp only [Bool.not_true, Bool.false_eq_true, if_false, rest, bind_assoc]

theorem spans_run {R : Session σ → List Event → Session σ → Prop} (composes : Composes R)
    {l : MonitorLoop σ} {view : JobView} {o : WatchOptions σ}
    (check : Spans R (l.monitor.check view (checkOptions o))) (rest : Spans R (l.rest o))
    (limit : Nat) : Spans R (l.run limit view o) := by
  have checks (left done : Nat) : Spans R (l.checkUntilIdle view o left done) := by
    induction left generalizing done with
    | zero => exact composes.unfinished
    | succ left ih =>
      rw [checkUntilIdle_succ]
      refine composes.bind check fun active => ?_
      cases active with
      | false => exact composes.pure _
      | true => exact composes.bind rest fun _ => ih _
  exact composes.bind composes.now fun _ => composes.bind (checks limit 0) fun _ =>
    composes.bind composes.now fun _ => composes.bind (composes.log _ _ _ _) fun _ =>
      composes.pure _

theorem mirrors_run {plain : Session τ → Session σ} (erases : Erases plain) {l' : MonitorLoop τ}
    {l : MonitorLoop σ} (logger : l'.logger = l.logger) {view : JobView} {o' : WatchOptions τ}
    {o : WatchOptions σ}
    (check : Mirrors plain (l'.monitor.check view (checkOptions o'))
      (l.monitor.check view (checkOptions o)))
    (rest : Mirrors plain (l'.rest o') (l.rest o)) (limit : Nat) :
    Mirrors plain (l'.run limit view o') (l.run limit view o) := by
  have checks (left done : Nat) :
      Mirrors plain (l'.checkUntilIdle view o' left done) (l.checkUntilIdle view o left done) := by
    induction left generalizing done with
    | zero => exact mirrors_unfinished
    | succ left ih =>
      rw [checkUntilIdle_succ, checkUntilIdle_succ]
      refine check.bind fun active => ?_
      cases active with
      | false => exact mirrors_pure _
      | true => exact rest.bind fun _ => ih _
  unfold MonitorLoop.run
  rw [logger]
  exact (mirrors_now erases).bind fun _ => (checks limit 0).bind fun _ =>
    (mirrors_now erases).bind fun _ => (mirrors_log erases _ _ _ _).bind fun _ => mirrors_pure _

end MonitorLoop

end JobWatch
