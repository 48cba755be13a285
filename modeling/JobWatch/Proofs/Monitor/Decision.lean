import JobWatch.Proofs.Backend.Steady
import JobWatch.Proofs.Monitor.Phases

/-!
# What a check decides

A check over a backend in service and a broker that does not change comes to a decision that is a
function of the broker's answers, of the queues the backend has known before, and of what is
asked. Sleep and callback are arbitrary runs that leave the backend alone. The signal may be there
or not; nothing is said about a check by whose end it has been raised.
-/

namespace JobWatch

variable {β : Type}

/-- Nobody is at a relevant queue, and no client on a queue known bears an expected name. -/
def Answers.Deserted (a : Answers) (view : JobView) (known : List String) : Prop :=
  (∀ queue ∈ view.relevantQueues, a.clients queue = []) ∧ ¬ a.Reports view.expectedWorkers known

instance (a : Answers) (view : JobView) (known : List String) :
    Decidable (a.Deserted view known) :=
  inferInstanceAs (Decidable (_ ∧ _))

/-- A queue that counts has a backlog, or a worker is busy on a relevant queue. -/
def Answers.HasWork (a : Answers) (view : JobView) (scope : JobsScope) (counted : List String) :
    Prop :=
  (∃ queue ∈ counted, (scope = .relevant → queue ∈ view.relevantQueues) ∧ 0 < a.backlog queue) ∨
    ∃ queue ∈ view.relevantQueues, 0 < a.active queue

instance (a : Answers) (view : JobView) (scope : JobsScope) (counted : List String) :
    Decidable (a.HasWork view scope counted) :=
  inferInstanceAs (Decidable (_ ∨ _))

namespace JobsScope

theorem totalJobs_isPositive (scope : JobsScope) (a : Answers) {counted : List String}
    (view : JobView) (filed : ∀ queue ∈ counted, queue ≠ KeyedMap.reserved) :
    (scope.totalJobs (a.statuses counted) view).isPositive = true ↔
      ∃ queue ∈ counted,
        (scope = .relevant → queue ∈ view.relevantQueues) ∧ 0 < a.backlog queue := by
  cases scope with
  | all =>
    have whole := a.aggregateJobs_isPositive filed fun _ => true
    rw [List.filter_eq_self.mpr fun _ _ => rfl] at whole
    simpa [totalJobs] using whole
  | relevant =>
    have part := a.aggregateJobs_isPositive filed fun status => status.name ∈ view.relevantQueues
    simp only [decide_eq_true_eq] at part
    simpa [totalJobs, filterStatuses, Answers.status] using part

end JobsScope

namespace Monitor

open Run

variable {b : QueueBackend β} {a : Answers} {known : List String} {m : Monitor (Service β)}

/-- What a wait comes to if it is in vain. -/
def InVain (a : Answers) (expected known : List String) (t : Thrown) : Prop :=
  ¬ a.Reports expected known ∧
    t = .failure (.noWorkers expected (Binary64.ofNat maxWorkerChecks))

/-- The wait finds a worker at its first look, or none until the budget is used up. -/
theorem ends_lookForWorkers (steady : b.broker.Steady a) (backed : m.backend = b.backend)
    (sleeps : ∀ ms, Bystander (m.sleep ms)) (expected : List String) {looks : Nat}
    {budget : Backoff} (limit : budget.limit = Binary64.ofNat maxWorkerChecks)
    (left : budget.attempts + looks = maxWorkerChecks) (more : 0 < looks) :
    Ends (fun s => Serving known s.outside) (m.lookForWorkers expected looks budget)
      (fun _ s => a.Reports expected known ∧ Serving known s.outside)
      (InVain a expected known) := by
  induction looks generalizing budget with
  | zero => exact absurd more (Nat.lt_irrefl 0)
  | succ looks ih =>
    rw [lookForWorkers, backed]
    refine ends_throwIfAborted.bind fun _ =>
      (b.ends_workerIdentifiers steady).bind fun running => (ends_log _ _ _ _).bind fun _ => ?_
    by_cases found : hasExpectedWorker expected running = true
    · simp only [if_pos found]
      refine ends_pure ?_
      rintro s ⟨rfl, serving⟩
      exact ⟨a.hasExpectedWorker_iff.mp found, serving⟩
    · simp only [if_neg found]
      have limit' : budget.fail.limit = Binary64.ofNat maxWorkerChecks := limit
      have attempts : budget.fail.attempts = budget.attempts + 1 := rfl
      by_cases last : looks = 0
      · have spent : budget.fail.isExhausted = true := (isExhausted_iff limit').mpr (by omega)
        simp only [if_pos spent]
        refine ends_throw ?_
        rintro s ⟨rfl, serving⟩
        have used : budget.fail.attempts = maxWorkerChecks := by omega
        exact ⟨fun reported => found (a.hasExpectedWorker_iff.mpr reported),
          congrArg (fun n => Thrown.failure (.noWorkers expected (Binary64.ofNat n))) used⟩
      · have unspent : ¬ budget.fail.isExhausted = true := by
          rw [isExhausted_iff limit']
          omega
        simp only [if_neg unspent]
        refine Ends.of_pre ?_ fun _ start => start.2
        exact (ends_throwIfAborted.bind fun _ => (sleeps _).ends).bind fun _ =>
          ih limit' (by omega) (by omega)

theorem ends_waitForWorkers (steady : b.broker.Steady a) (backed : m.backend = b.backend)
    (sleeps : ∀ ms, Bystander (m.sleep ms)) (view : JobView) {sleepSeconds : Binary64}
    (valid : Delay.validate sleepSeconds "sleepSeconds" = .ok ()) :
    Ends (fun s => Serving known s.outside) (m.waitForWorkers view sleepSeconds)
      (fun _ s => a.Reports view.expectedWorkers known ∧ Serving known s.outside)
      (InVain a view.expectedWorkers known) := by
  refine (ends_require valid).bind fun _ => (ends_log _ _ _ _).bind fun _ => ?_
  exact ends_lookForWorkers steady backed sleeps view.expectedWorkers
    (by simp only [Backoff.new]) (by simp only [Backoff.new, Nat.zero_add]) (by decide)

/-- Only a check that counts no consumers waits, and only such a check can fail. -/
theorem ends_awaitWorkers (steady : b.broker.Steady a) (backed : m.backend = b.backend)
    (sleeps : ∀ ms, Bystander (m.sleep ms)) (view : JobView) {o : CheckOptions (Service β)}
    (valid : Delay.validate o.sleepSeconds "sleepSeconds" = .ok ()) (consumers : Nat) :
    Ends (fun s => Serving known s.outside) (m.awaitWorkers view o consumers)
      (fun _ s => (consumers = 0 → a.Reports view.expectedWorkers known) ∧
        Serving known s.outside)
      (fun t => consumers = 0 ∧ InVain a view.expectedWorkers known t) := by
  unfold awaitWorkers
  by_cases idle : consumers = 0
  · simp only [if_pos idle]
    have waited : Ends (fun s => Serving known s.outside) (m.waitForWorkers view o.sleepSeconds)
        (fun _ s => a.Reports view.expectedWorkers known ∧ Serving known s.outside)
        (fun t => consumers = 0 ∧ InVain a view.expectedWorkers known t) :=
      (ends_waitForWorkers steady backed sleeps view valid).of_fails fun _ inVain => ⟨idle, inVain⟩
    refine waited.bind fun _ => ends_pure ?_
    rintro s ⟨reported, serving⟩
    exact ⟨fun _ => reported, serving⟩
  · simp only [if_neg idle]
    exact ends_pure fun _ serving => ⟨fun h => absurd h idle, serving⟩

theorem ends_findWork (steady : b.broker.Steady a) (backed : m.backend = b.backend)
    (view : JobView) (sub : ∀ queue ∈ view.relevantQueues, queue ∈ known) (jobs : Binary64)
    {fails : Thrown → Prop} :
    Ends (fun s => Serving known s.outside) (m.findWork view jobs)
      (fun active _ => active = true ↔
        jobs.isPositive = true ∨ ∃ queue ∈ view.relevantQueues, 0 < a.active queue) fails := by
  unfold findWork
  by_cases queued : jobs.isPositive = true
  · simp only [if_pos queued]
    exact ends_pure fun _ _ => by simp [queued]
  · simp only [if_neg queued, backed]
    refine ends_throwIfAborted.bind fun _ => (b.ends_workersProcessing steady sub).of_post ?_
    rintro active s ⟨busy, _⟩
    simpa [queued] using busy

/-- What is made of two readings, whatever they are. -/
theorem ends_conclude (steady : b.broker.Steady a) (backed : m.backend = b.backend)
    (sleeps : ∀ ms, Bystander (m.sleep ms)) (view : JobView) {o : CheckOptions (Service β)}
    (valid : Delay.validate o.sleepSeconds "sleepSeconds" = .ok ())
    (sub : ∀ queue ∈ view.relevantQueues, queue ∈ known) (statuses : StatusMap)
    (snapshot : ActiveSnapshot) :
    Ends (fun s => Serving known s.outside) (m.conclude view o statuses snapshot)
      (fun active _ =>
        (aggregateConsumers snapshot.activeQueues view.relevantQueues = 0 →
          a.Reports view.expectedWorkers known) ∧
        (active = true ↔ (m.scope.totalJobs statuses view).isPositive = true ∨
          ∃ queue ∈ view.relevantQueues, 0 < a.active queue))
      (fun t => aggregateConsumers snapshot.activeQueues view.relevantQueues = 0 ∧
        InVain a view.expectedWorkers known t) := by
  refine (ends_log _ _ _ _).bind fun _ => (ends_log _ _ _ _).bind fun _ =>
    (ends_awaitWorkers steady backed sleeps view valid _).bind fun _ =>
      (ends_findWork steady backed view sub _).frame.bind fun active =>
        (ends_log _ _ _ _).bind fun _ => ends_pure ?_
  exact fun _ holds => holds

/-! ## The decision -/

/-- The queues known once a check has read the backlog. -/
def knownAfter (handles counted relevant : List String) : List String :=
  relevant.foldl remember (counted.foldl remember handles)

theorem mem_knownAfter {handles counted relevant : List String} {queue : String} :
    queue ∈ knownAfter handles counted relevant ↔ queue ∈ handles ++ counted ++ relevant := by
  rw [knownAfter, mem_foldl_remember, mem_foldl_remember, List.mem_append, List.mem_append]

theorem deserted_knownAfter {view : JobView} {handles counted : List String} :
    a.Deserted view (knownAfter handles counted view.relevantQueues) ↔
      a.Deserted view (handles ++ counted ++ view.relevantQueues) :=
  and_congr Iff.rfl (not_congr
    ⟨Answers.Reports.of_subset fun _ => mem_knownAfter.mp,
      Answers.Reports.of_subset fun _ => mem_knownAfter.mpr⟩)

theorem ends_readBacklog (steady : b.broker.Steady a) (backed : m.backend = b.backend)
    (view : JobView) {o : CheckOptions (Service β)}
    (heard : ∀ statuses, Bystander (o.onSnapshot statuses)) {counted : List String}
    (counts : o.statusQueues.getD view.relevantQueues = counted) {fails : Thrown → Prop} :
    Ends (fun s => Serving known s.outside) (m.readBacklog view o)
      (fun statuses s => statuses = a.statuses counted ∧
        Serving (knownAfter known counted view.relevantQueues) s.outside) fails := by
  rw [readBacklog, backed, counts]
  refine (b.ends_queueStatus steady _).bind fun statuses => (ends_log _ _ _ _).bind fun _ =>
    (heard statuses).ends.frame.bind fun _ => (b.ends_watch steady _).frame.bind fun _ =>
      ends_pure ?_
  exact fun _ holds => holds

theorem ends_check (steady : b.broker.Steady a) (backed : m.backend = b.backend)
    (sleeps : ∀ ms, Bystander (m.sleep ms)) (view : JobView) {o : CheckOptions (Service β)}
    (valid : Delay.validate o.sleepSeconds "sleepSeconds" = .ok ())
    (heard : ∀ statuses, Bystander (o.onSnapshot statuses)) {counted : List String}
    (counts : o.statusQueues.getD view.relevantQueues = counted)
    (filed : ∀ queue ∈ counted ++ view.relevantQueues, queue ≠ KeyedMap.reserved) :
    Ends (fun s => Serving known s.outside) (m.check view o)
      (fun active _ => ¬ a.Deserted view (known ++ counted ++ view.relevantQueues) ∧
        (active = true ↔ a.HasWork view m.scope counted))
      (fun t => a.Deserted view (known ++ counted ++ view.relevantQueues) ∧
        t = .failure (.noWorkers view.expectedWorkers (Binary64.ofNat maxWorkerChecks))) := by
  have relevant : ∀ queue ∈ view.relevantQueues,
      queue ∈ knownAfter known counted view.relevantQueues :=
    fun _ listed => mem_knownAfter.mpr (List.mem_append_right _ listed)
  have idle := a.aggregateConsumers_eq_zero relevant fun queue listed =>
    filed queue (List.mem_append_right _ listed)
  have queued := m.scope.totalJobs_isPositive a view fun queue listed =>
    filed queue (List.mem_append_left _ listed)
  rw [check_eq, backed]
  refine (ends_require valid).bind fun _ => ends_throwIfAborted.bind fun _ =>
    (ends_readBacklog steady backed view heard counts).bind fun statuses =>
      (b.ends_activeQueues steady).frame.bind fun snapshot => Ends.weaken
        (ends_conclude steady backed sleeps view valid relevant statuses snapshot).assuming.assuming
        (fun _ holds => holds) ?_ ?_
  · rintro active s ⟨rfl, rfl, found, decided⟩
    rw [queued] at decided
    refine ⟨fun deserted => ?_, decided⟩
    obtain ⟨unattended, unreported⟩ := deserted_knownAfter.mpr deserted
    exact unreported (found (idle.mpr unattended))
  · rintro t ⟨rfl, rfl, none, unreported, named⟩
    exact ⟨deserted_knownAfter.mp ⟨idle.mp none, unreported⟩, named⟩

/-- Over a backend in service and a broker that always answers the same, and unless the caller
aborts it, a check fails for want of workers exactly if the relevant queues are deserted and no
known queue has an expected worker. Otherwise it answers whether there is work. -/
theorem check_decides (b : QueueBackend β) (a : Answers) (steady : b.broker.Steady a)
    (m : Monitor (Service β)) (backed : m.backend = b.backend)
    (sleeps : ∀ ms, Bystander (m.sleep ms)) (view : JobView) (o : CheckOptions (Service β))
    (valid : Delay.validate o.sleepSeconds "sleepSeconds" = .ok ())
    (heard : ∀ statuses, Bystander (o.onSnapshot statuses)) (counted : List String)
    (counts : o.statusQueues.getD view.relevantQueues = counted)
    (filed : ∀ queue ∈ counted ++ view.relevantQueues, queue ≠ KeyedMap.reserved)
    (s : Session (Service β)) (undisposed : s.outside.pool.disposed = false)
    (closed : s.outside.pool.breaker.circuit = .closed)
    (notAborted : (m.check view o s).session.signal ≠ .raised) :
    ((m.check view o s).outcome =
        .threw (.failure (.noWorkers view.expectedWorkers (Binary64.ofNat 10))) ↔
      a.Deserted view (s.outside.pool.handles ++ counted ++ view.relevantQueues)) ∧
    (¬ a.Deserted view (s.outside.pool.handles ++ counted ++ view.relevantQueues) →
      ∃ active, (m.check view o s).outcome = .returned active ∧
        (active = true ↔ a.HasWork view m.scope counted)) := by
  have met := (ends_check steady backed sleeps view valid heard counts filed).meets s
    ⟨undisposed, closed, rfl⟩ notAborted
  cases came : (m.check view o s).outcome with
  | returned active =>
    rw [came] at met
    obtain ⟨manned, decided⟩ := met
    refine ⟨⟨fun failed => ?_, fun deserted => absurd deserted manned⟩,
      fun _ => ⟨active, rfl, decided⟩⟩
    cases failed
  | threw t =>
    rw [came] at met
    obtain ⟨deserted, rfl⟩ := met
    exact ⟨⟨fun _ => deserted, fun _ => rfl⟩, fun manned => absurd deserted manned⟩
  | unfinished =>
    rw [came] at met
    exact met.elim

/-- A worker is connected to a queue known from before, but does not bear the expected name. The
queue that counts has jobs, and the check fails all the same. -/
theorem check_decides_deserted :
    let a : Answers :=
      { counts := fun queue => if queue = "b" then [("wait", 3)] else []
        clients := fun queue =>
          if queue = "old" then [⟨"bull:w:other", "7", "10.0.0.1:6379"⟩] else []
        active := fun _ => 0 }
    let b : QueueBackend Unit := ⟨a.broker, Log.Logger.silent, none⟩
    let m : Monitor (Service Unit) := ⟨b.backend, Log.Logger.silent, .all, Run.pause⟩
    let s : Session (Service Unit) :=
      { Session.start 0 (Service.start "ready" ()) with
        signal := .clear
        outside := { Service.start "ready" () with
          pool := { Pool.new none none with handles := ["old"] } } }
    (m.check ⟨["a"], ["mailer"]⟩ ⟨1, some ["b"], fun _ => pure ()⟩ s).outcome =
      .threw (.failure (.noWorkers ["mailer"] (Binary64.ofNat 10))) := by
  intro a b m s
  have valid : Delay.validate 1 "sleepSeconds" = .ok () := by
    have fine : Delay.defect? 1 = none := by decide +kernel
    rw [Delay.validate, fine]
  have decided := check_decides b a a.steady_broker m rfl bystander_pause ⟨["a"], ["mailer"]⟩
    ⟨1, some ["b"], fun _ => pure ()⟩ valid (fun _ => bystander_pure) ["b"] rfl (by decide) s rfl
    rfl (by decide +kernel)
  exact decided.1.mpr (by decide +kernel)

end Monitor

end JobWatch
