import JobWatch.Proofs.Delay
import JobWatch.Proofs.Monitor.Walk
import JobWatch.Script

/-!
# The timers of a run

A check, a wait for workers and a run of checks are told how many seconds to sleep. The main
statement says that each of them either refuses the number before anything is done, or sets no
timer but for the delay that the number comes to, and that this delay is one that a timer honours.
So no sleep of a millisecond or more is cut short, however often the run sleeps. Who sets timers
is only the one who sleeps; a backend and whoever is handed a reading are taken to set none.
-/

namespace JobWatch

open Run

variable {σ α : Type}

/-- No timer is set. -/
def Untimed : Session σ → List Event → Session σ → Prop := OfKind fun e => e.timer? = none

/-- No timer is set but for one delay. -/
def Timed (ms : Binary64) : Session σ → List Event → Session σ → Prop :=
  OfKind fun e => ∀ delay, e.timer? = some delay → delay = ms

theorem composes_untimed : Composes (Untimed : Session σ → List Event → Session σ → Prop) :=
  composes_kind fun _ _ _ => rfl

theorem composes_timed (ms : Binary64) :
    Composes (Timed ms : Session σ → List Event → Session σ → Prop) :=
  composes_kind fun _ _ _ => nofun

theorem Untimed.timed {s s' : Session σ} {events : List Event} (untimed : Untimed s events s')
    (ms : Binary64) : Timed ms s events s' := fun e listed _ set =>
  nomatch (untimed e listed).symm.trans set

theorem Timed.eq_of_mem {ms delay : Binary64} {s s' : Session σ} {events : List Event}
    (timed : Timed ms s events s') (set : delay ∈ timers events) : delay = ms := by
  obtain ⟨e, listed, timer⟩ := List.mem_filterMap.mp set
  exact timed e listed delay timer

/-! ## Who sets timers -/

/-- Whoever sleeps sets no timer but for the delay that is asked for. -/
def Sleeper.IsPlain (sleep : Sleeper σ) : Prop := ∀ ms, Spans (Timed ms) (sleep ms)

theorem isPlain_pause : Sleeper.IsPlain (pause : Sleeper σ) := by
  intro ms s e listed delay set
  rcases pause_cases ms s with ⟨_, none⟩ | ⟨_, ⟨later, seen, interrupts⟩, _⟩
  · rw [none] at listed
    cases listed
  · rw [seen] at listed
    rcases List.mem_cons.mp listed with rfl | among
    · exact (Option.some.inj set).symm
    · obtain ⟨name, rfl⟩ := interrupts e among
      cases set

theorem isPlain_delegateSleep : Sleeper.IsPlain (delegateSleep : Sleeper σ) := by
  intro ms s e listed delay set
  obtain rfl := List.mem_singleton.mp listed
  cases set

theorem untimed_ask {e : Event} (instant : e.timer? = none) (respond : Responder σ α) :
    Spans Untimed (ask e respond) := kind_ask instant respond

theorem BackendResponder.guides_untimed (r : BackendResponder σ) : r.backend.Guides Untimed where
  watchQueues _ := untimed_ask rfl _
  queueStatus _ := untimed_ask rfl _
  activeQueues := untimed_ask rfl _
  workerIdentifiers := untimed_ask rfl _
  workersProcessing _ := untimed_ask rfl _

theorem QueueBackend.guides_untimed {β : Type} (b : QueueBackend β) : b.backend.Guides Untimed :=
  (steps_of_calls composes_untimed (fun _ _ _ => untimed_ask rfl _)
    fun _ _ _ => List.forall_mem_nil _).guides composes_untimed

theorem Backend.Guides.timed {b : Backend σ} (guides : b.Guides Untimed) (ms : Binary64) :
    b.Guides (Timed ms) where
  watchQueues queues s := (guides.watchQueues queues s).timed ms
  queueStatus queues s := (guides.queueStatus queues s).timed ms
  activeQueues s := (guides.activeQueues s).timed ms
  workerIdentifiers s := (guides.workerIdentifiers s).timed ms
  workersProcessing queues s := (guides.workersProcessing queues s).timed ms

/-! ## One delay for all sleeps -/

namespace Monitor

variable {m : Monitor σ}

/-- The monitor that sleeps for the same delay whatever it is asked for. -/
def steady (m : Monitor σ) (ms : Binary64) : Monitor σ := { m with sleep := fun _ => m.sleep ms }

theorem lookForWorkers_steady (m : Monitor σ) (expected : List String) (looks : Nat)
    (budget : Backoff) :
    (m.steady budget.delayMs).lookForWorkers expected looks budget =
      m.lookForWorkers expected looks budget := by
  induction looks generalizing budget with
  | zero => rfl
  | succ looks ih =>
    -- a failed look uses up an attempt, and leaves the delay as it is
    have later := ih budget.fail
    rw [lookForWorkers, lookForWorkers]
    simp only [show budget.fail.delayMs = budget.delayMs from rfl] at later
    simp only [Backoff.pause, later]
    rfl

theorem waitForWorkers_steady (m : Monitor σ) (view : JobView) (seconds : Binary64) :
    (m.steady (Delay.ofSeconds seconds)).waitForWorkers view seconds =
      m.waitForWorkers view seconds := by
  have looks := m.lookForWorkers_steady view.expectedWorkers maxWorkerChecks
    (Backoff.new (Binary64.ofNat maxWorkerChecks) (Delay.ofSeconds seconds))
  rw [waitForWorkers, waitForWorkers, ← looks]
  rfl

theorem check_steady (m : Monitor σ) (view : JobView) (o : CheckOptions σ) :
    (m.steady (Delay.ofSeconds o.sleepSeconds)).check view o = m.check view o := by
  simp only [check, waitForWorkers_steady]
  rfl

theorem leads_timed (guides : m.backend.Guides Untimed) (plain : Sleeper.IsPlain m.sleep)
    (ms : Binary64) : (m.steady ms).Leads (Timed ms) :=
  leads_of_guides (composes_timed ms) (guides.timed ms) fun _ => plain ms

theorem timed_waitForWorkers (guides : m.backend.Guides Untimed)
    (plain : Sleeper.IsPlain m.sleep) (view : JobView) (seconds : Binary64) :
    Spans (Timed (Delay.ofSeconds seconds)) (m.waitForWorkers view seconds) := by
  rw [← waitForWorkers_steady]
  exact (leads_timed guides plain _).waitForWorkers (composes_timed _) view seconds

theorem timed_check (guides : m.backend.Guides Untimed) (plain : Sleeper.IsPlain m.sleep)
    (view : JobView) {o : CheckOptions σ}
    (handOn : ∀ statuses, Spans Untimed (o.onSnapshot statuses)) :
    Spans (Timed (Delay.ofSeconds o.sleepSeconds)) (m.check view o) := by
  rw [← check_steady]
  have guides' := guides.timed (Delay.ofSeconds o.sleepSeconds)
  exact (leads_timed guides plain _).check (composes_timed _) view guides'.queueStatus
    (fun statuses s => (handOn statuses s).timed _) guides'.watchQueues guides'.activeQueues

end Monitor

namespace MonitorLoop

variable {l : MonitorLoop σ}

theorem timed_run (guides : l.monitor.backend.Guides Untimed)
    (plain : Sleeper.IsPlain l.monitor.sleep) (rests : Sleeper.IsPlain l.sleep) (view : JobView)
    {o : WatchOptions σ} (handOn : ∀ statuses, Spans Untimed (o.report statuses)) (limit : Nat) :
    Spans (Timed (Delay.ofSeconds o.sleepSeconds)) (l.run limit view o) := by
  have composes := composes_timed (σ := σ) (Delay.ofSeconds o.sleepSeconds)
  have check := Monitor.timed_check guides plain view (o := checkOptions o) handOn
  exact spans_run composes check (composes.bind (composes.log _ _ _ _) fun _ => rests _) limit

end MonitorLoop

/-! ## Numbers of seconds that are refused -/

/-- What becomes of a call that is told how many seconds to sleep. -/
inductive Paced (seconds : Binary64) (s : Session σ) (r : Result σ α) : Prop
  | refused (unfit : ¬ Delay.InRange (Delay.ofSeconds seconds)) (reason : String)
      (untouched : r = ⟨.threw (.failure (.configuration reason)), [], s⟩)
  | timed (fit : Delay.InRange (Delay.ofSeconds seconds))
      (inRange : ∀ ms ∈ timers r.events, Delay.InRange ms ∧ ms = Delay.ofSeconds seconds)
      (uncut : ∀ ms ∈ timers r.events, Binary64.le 1 ms = true →
        Delay.effective ms = ms.truncate.toNat)

/-- A call that begins with the check of its number of seconds, and sets timers only for what the
number comes to. -/
theorem paced_of_timed {x : Run σ α} {seconds : Binary64}
    (refuses : ∀ f s, Delay.validate seconds "sleepSeconds" = .error f →
      x s = ⟨.threw (.failure f), [], s⟩)
    (timed : Spans (Timed (Delay.ofSeconds seconds)) x) (s : Session σ) :
    Paced seconds s (x s) := by
  by_cases fit : Delay.InRange (Delay.ofSeconds seconds)
  · have only : ∀ ms ∈ timers (x s).events, ms = Delay.ofSeconds seconds :=
      fun ms set => (timed s).eq_of_mem set
    refine .timed fit (fun ms set => ⟨only ms set ▸ fit, only ms set⟩) fun ms set whole => ?_
    have honoured : Delay.InRange ms := only ms set ▸ fit
    exact honoured.effective_eq whole
  · have bad := fit ∘ (Delay.defect?_eq_none_iff seconds).mp
    obtain ⟨reason, invalid⟩ := Delay.exists_reason_of_defect bad "sleepSeconds"
    exact .refused fit reason (refuses _ s invalid)

theorem Monitor.check_of_invalid (m : Monitor σ) (view : JobView) {o : CheckOptions σ}
    {f : Failure} (s : Session σ)
    (invalid : Delay.validate o.sleepSeconds "sleepSeconds" = .error f) :
    m.check view o s = ⟨.threw (.failure f), [], s⟩ := by
  rw [check_eq, invalid, require_error_bind]

theorem Monitor.waitForWorkers_of_invalid (m : Monitor σ) (view : JobView) {seconds : Binary64}
    {f : Failure} (s : Session σ) (invalid : Delay.validate seconds "sleepSeconds" = .error f) :
    m.waitForWorkers view seconds s = ⟨.threw (.failure f), [], s⟩ := by
  rw [waitForWorkers, invalid, require_error_bind]

theorem MonitorLoop.run_of_invalid (l : MonitorLoop σ) (view : JobView) {o : WatchOptions σ}
    {f : Failure} (limit : Nat) (s : Session σ)
    (invalid : Delay.validate o.sleepSeconds "sleepSeconds" = .error f) :
    l.run (limit + 1) view o s = ⟨.threw (.failure f), [], s⟩ := by
  have first := l.monitor.check_of_invalid view (o := checkOptions o) s invalid
  have checks : l.checkUntilIdle view o (limit + 1) 0 s = ⟨.threw (.failure f), [], s⟩ := by
    rw [checkUntilIdle_succ, bind_threw (by rw [first]), first]
  have started : (now : Run σ Nat) s = ⟨.returned s.now, [], s⟩ := rfl
  rw [run, bind_returned (by rw [started]), started, bind_threw (by rw [checks]), checks]
  rfl

/-- A check, a wait for workers and a run of checks of any length set timers only for one delay,
that of their number of seconds, and only if a timer honours it. Otherwise the number is refused
as a bad configuration before anything is seen or changed. -/
theorem timers_in_range (l : MonitorLoop σ) (guides : l.monitor.backend.Guides Untimed)
    (plain : Sleeper.IsPlain l.monitor.sleep) (rests : Sleeper.IsPlain l.sleep) (view : JobView)
    (s : Session σ) :
    (∀ o : CheckOptions σ, (∀ statuses, Spans Untimed (o.onSnapshot statuses)) →
        Paced o.sleepSeconds s (l.monitor.check view o s)) ∧
      (∀ seconds, Paced seconds s (l.monitor.waitForWorkers view seconds s)) ∧
      ∀ o : WatchOptions σ, (∀ statuses, Spans Untimed (o.report statuses)) → ∀ limit,
        Paced o.sleepSeconds s (l.run (limit + 1) view o s) := by
  refine ⟨fun o handOn => ?_, fun seconds => ?_, fun o handOn limit => ?_⟩
  · exact paced_of_timed (fun f s => l.monitor.check_of_invalid view s)
      (Monitor.timed_check guides plain view handOn) s
  · exact paced_of_timed (fun f s => l.monitor.waitForWorkers_of_invalid view s)
      (Monitor.timed_waitForWorkers guides plain view seconds) s
  · exact paced_of_timed (fun f s => l.run_of_invalid view limit s)
      (MonitorLoop.timed_run guides plain rests view handOn (limit + 1)) s

/-- The first check sleeps once while it waits for a worker, and finds the job busy. -/
theorem timers_in_range_of_two_checks :
    let busy : StatusMap := KeyedMap.empty.file "a" ⟨"a", 1, .zero⟩
    let idle : StatusMap := KeyedMap.empty.file "a" ⟨"a", .zero, .zero⟩
    let play : Play := { backend :=
      { queueStatus := [.ok busy, .ok idle], workerIdentifiers := [.ok [], .ok ["w@h"]] } }
    let l : MonitorLoop Play :=
      ⟨⟨Play.responder.backend, Log.Logger.silent, .all, Run.pause⟩, Log.Logger.silent, Run.pause⟩
    let run := l.run 2 ⟨["a"], ["w"]⟩ ⟨1, none, fun _ => pure ()⟩ (Session.start 0 play)
    timers run.events = [1000, 1000] ∧ Delay.InRange 1000 ∧ Delay.effective 1000 = 1000 := by
  intro busy idle play l run
  have unheard (statuses : StatusMap) : Spans Untimed (pure () : Run Play Unit) :=
    composes_untimed.pure ()
  have paced := (timers_in_range l Play.responder.guides_untimed isPlain_pause isPlain_pause
    ⟨["a"], ["w"]⟩ (Session.start 0 play)).2.2 ⟨1, none, fun _ => pure ()⟩ unheard 1
  have set : timers run.events = [1000, 1000] := by decide +kernel
  cases paced with
  | refused unfit reason untouched =>
    exact absurd ((Delay.defect?_eq_none_iff 1).mp (by decide +kernel)) unfit
  | timed fit inRange uncut =>
    have first : 1000 ∈ timers run.events := set ▸ List.mem_cons_self
    have honoured := uncut 1000 first (by decide +kernel)
    exact ⟨set, (inRange 1000 first).1, honoured.trans (by decide +kernel)⟩

end JobWatch
