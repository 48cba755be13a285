import JobWatch.Proofs.Monitor.Budget
import JobWatch.Proofs.Run.Invariants
import JobWatch.Proofs.Workers.Agreement

/-!
# The plan of a check

A check reads the backlog, hands the reading on, has the relevant queues watched, reads who is at
work, waits if nobody is, and asks whether a worker is busy if nothing is queued. The main statement
says how far a check gets with that and what it comes to, whatever it is answered: the first call
that fails ends it, with that failure. Backend and listener answer from outside. Checks that are
aborted are not spoken of.
-/

namespace JobWatch

variable {σ : Type}

namespace JobsScope

/-- The queue counts for the backlog. -/
def Counts (scope : JobsScope) (view : JobView) (q : QueueStatus) : Prop :=
  scope = .relevant → q.name ∈ view.relevantQueues

theorem backlog_totalJobs (scope : JobsScope) (statuses : StatusMap) (view : JobView) :
    Backlog (scope.Counts view) statuses.values (scope.totalJobs statuses view) := by
  classical
  refine backlog_iff.mpr ?_
  cases scope with
  | all => simp [totalJobs, Counts]
  | relevant => simp [totalJobs, Counts, filterStatuses]

end JobsScope

namespace Monitor

open Run

/-- A listener who answers from outside, if there is one. -/
def listener (hear? : Option (StatusMap → Responder σ Unit)) (statuses : StatusMap) :
    Run σ Unit :=
  match hear? with
  | none => pure ()
  | some hear => Run.ask (.snapshot statuses) (hear statuses)

section Tales

variable (r : BackendResponder σ) (view : JobView)

/-- Workers are waited for exactly if nobody is subscribed to a relevant queue. -/
inductive Awaits (ms : Binary64) (active : Option ActiveQueues) : Tale σ Unit where
  | staffed {w : σ} (someone : subscribers active view.relevantQueues ≠ ∅) :
      Awaits ms active w [] (.returned ()) w
  | awaited {w w' : σ} {looks : List Deed} {failed : Nat}
      (nobody : subscribers active view.relevantQueues = ∅)
      (wait : Looks r view.expectedWorkers ms 0 maxWorkerChecks w looks (.returned failed) w') :
      Awaits ms active w looks (.returned ()) w'
  | threw {w w' : σ} {looks : List Deed} {t : Thrown}
      (nobody : subscribers active view.relevantQueues = ∅)
      (wait : Looks r view.expectedWorkers ms 0 maxWorkerChecks w looks (.threw t) w') :
      Awaits ms active w looks (.threw t) w'

/-- What comes after a reading of the backlog has been handed on. -/
inductive Decides (jobs ms : Binary64) : Tale σ Bool where
  | unwatched {w w' : σ} {t : Thrown}
      (watch : (r.watchQueues view.relevantQueues).Replies w (.error t) w') :
      Decides jobs ms w [.calls (.watchQueues view.relevantQueues)] (.threw t) w'
  | unlisted {w w₁ w' : σ} {t : Thrown}
      (watch : (r.watchQueues view.relevantQueues).Replies w (.ok ()) w₁)
      (list : r.activeQueues.Replies w₁ (.error t) w') :
      Decides jobs ms w [.calls (.watchQueues view.relevantQueues), .calls .activeQueues]
        (.threw t) w'
  | deserted {w w₁ w₂ w' : σ} {snapshot : ActiveSnapshot} {looks : List Deed} {t : Thrown}
      (watch : (r.watchQueues view.relevantQueues).Replies w (.ok ()) w₁)
      (list : r.activeQueues.Replies w₁ (.ok snapshot) w₂)
      (wait : Awaits r view ms snapshot.activeQueues w₂ looks (.threw t) w') :
      Decides jobs ms w
        (.calls (.watchQueues view.relevantQueues) :: .calls .activeQueues :: looks) (.threw t) w'
  | queued {w w₁ w₂ w' : σ} {snapshot : ActiveSnapshot} {looks : List Deed}
      (watch : (r.watchQueues view.relevantQueues).Replies w (.ok ()) w₁)
      (list : r.activeQueues.Replies w₁ (.ok snapshot) w₂)
      (wait : Awaits r view ms snapshot.activeQueues w₂ looks (.returned ()) w')
      (some_job : jobs.isPositive = true) :
      Decides jobs ms w
        (.calls (.watchQueues view.relevantQueues) :: .calls .activeQueues :: looks)
        (.returned true) w'
  | asked {w w₁ w₂ w₃ w' : σ} {snapshot : ActiveSnapshot} {looks : List Deed} {busy : Bool}
      (watch : (r.watchQueues view.relevantQueues).Replies w (.ok ()) w₁)
      (list : r.activeQueues.Replies w₁ (.ok snapshot) w₂)
      (wait : Awaits r view ms snapshot.activeQueues w₂ looks (.returned ()) w₃)
      (no_job : ¬ jobs.isPositive = true)
      (ask : (r.workersProcessing view.relevantQueues).Replies w₃ (.ok busy) w') :
      Decides jobs ms w
        (.calls (.watchQueues view.relevantQueues) :: .calls .activeQueues ::
          (looks ++ [.calls (.workersProcessing view.relevantQueues)]))
        (.returned busy) w'
  | unanswered {w w₁ w₂ w₃ w' : σ} {snapshot : ActiveSnapshot} {looks : List Deed} {t : Thrown}
      (watch : (r.watchQueues view.relevantQueues).Replies w (.ok ()) w₁)
      (list : r.activeQueues.Replies w₁ (.ok snapshot) w₂)
      (wait : Awaits r view ms snapshot.activeQueues w₂ looks (.returned ()) w₃)
      (no_job : ¬ jobs.isPositive = true)
      (ask : (r.workersProcessing view.relevantQueues).Replies w₃ (.error t) w') :
      Decides jobs ms w
        (.calls (.watchQueues view.relevantQueues) :: .calls .activeQueues ::
          (looks ++ [.calls (.workersProcessing view.relevantQueues)]))
        (.threw t) w'

/-- A whole check. The jobs that it goes by are those of its one reading, of all queues in it or of
the relevant ones only. -/
inductive Checks (hear? : Option (StatusMap → Responder σ Unit)) (scope : JobsScope)
    (counted : List String) (ms : Binary64) : Tale σ Bool where
  | unread {w w' : σ} {t : Thrown} (read : (r.queueStatus counted).Replies w (.error t) w') :
      Checks hear? scope counted ms w [.calls (.queueStatus counted)] (.threw t) w'
  | refused {hear : StatusMap → Responder σ Unit} {w w₁ w' : σ} {statuses : StatusMap} {t : Thrown}
      (read : (r.queueStatus counted).Replies w (.ok statuses) w₁) (present : hear? = some hear)
      (hears : (hear statuses).Replies w₁ (.error t) w') :
      Checks hear? scope counted ms w [.calls (.queueStatus counted), .handsOn statuses]
        (.threw t) w'
  | unheard {w w₁ w' : σ} {statuses : StatusMap} {jobs : Binary64} {ds : List Deed}
      {o : Outcome Bool} (read : (r.queueStatus counted).Replies w (.ok statuses) w₁)
      (absent : hear? = none) (backlog : Backlog (scope.Counts view) statuses.values jobs)
      (decides : Decides r view jobs ms w₁ ds o w') :
      Checks hear? scope counted ms w (.calls (.queueStatus counted) :: ds) o w'
  | heard {hear : StatusMap → Responder σ Unit} {w w₁ w₂ w' : σ} {statuses : StatusMap}
      {jobs : Binary64} {ds : List Deed} {o : Outcome Bool}
      (read : (r.queueStatus counted).Replies w (.ok statuses) w₁) (present : hear? = some hear)
      (hears : (hear statuses).Replies w₁ (.ok ()) w₂)
      (backlog : Backlog (scope.Counts view) statuses.values jobs)
      (decides : Decides r view jobs ms w₂ ds o w') :
      Checks hear? scope counted ms w (.calls (.queueStatus counted) :: .handsOn statuses :: ds)
        o w'

end Tales

variable {m : Monitor σ} {r : BackendResponder σ}

theorem unaborted_awaitWorkers (regular : m.Regular r) (view : JobView) {o : CheckOptions σ}
    (valid : Delay.validate o.sleepSeconds "sleepSeconds" = .ok ())
    (active : Option ActiveQueues) :
    Unaborted (m.awaitWorkers view o (aggregateConsumers active view.relevantQueues))
      (Awaits r view (Delay.ofSeconds o.sleepSeconds) active) := by
  rw [awaitWorkers]
  by_cases nobody : aggregateConsumers active view.relevantQueues = 0
  · rw [if_pos nobody]
    have nobody := aggregateConsumers_eq_zero.mp nobody
    refine (unaborted_waitForWorkers regular view valid).bind (fun failed => ?_) ?_ ?_
    · refine unaborted_pure fun w' w looks wait => ?_
      rw [List.append_nil]
      exact .awaited nobody wait
    · exact fun w looks t w' wait => .threw nobody wait
    · exact fun w looks w' wait => absurd rfl wait.ne_unfinished
  · rw [if_neg nobody]
    exact unaborted_pure fun w =>
      .staffed fun empty => nobody (aggregateConsumers_eq_zero.mpr empty)

theorem unaborted_decide (regular : m.Regular r) (view : JobView) {o : CheckOptions σ}
    (valid : Delay.validate o.sleepSeconds "sleepSeconds" = .ok ()) (statuses : StatusMap) :
    Unaborted (m.decide view o statuses)
      (Decides r view (m.scope.totalJobs statuses view) (Delay.ofSeconds o.sleepSeconds)) := by
  rw [decide, regular.backed]
  refine unaborted_ask_bind rfl (fun _ _ _ watch => .unwatched watch) fun _ => ?_
  refine unaborted_ask_bind rfl (fun _ _ _ list _ watch => .unlisted watch list) fun snapshot => ?_
  rw [conclude]
  refine (leaves_log _ _ _ _).bind ((leaves_log _ _ _ _).bind ?_)
  refine (unaborted_awaitWorkers regular view valid snapshot.activeQueues).bind (fun _ => ?_)
    (fun _ _ _ _ wait _ list _ watch => .deserted watch list wait) ?_
  · rw [findWork, regular.backed]
    by_cases some_job : (m.scope.totalJobs statuses view).isPositive = true
    · rw [if_pos some_job, pure_bind]
      refine (leaves_log _ _ _ _).bind (unaborted_pure fun w' w looks wait _ list _ watch => ?_)
      rw [List.nil_append, List.nil_append, List.nil_append, List.append_nil]
      exact .queued watch list wait some_job
    · rw [if_neg some_job, bind_assoc]
      refine leaves_throwIfAborted.bind ?_
      refine unaborted_ask_bind rfl (fun _ _ _ ask _ _ wait _ list _ watch =>
        .unanswered watch list wait some_job ask) fun busy => ?_
      refine (leaves_log _ _ _ _).bind ?_
      exact unaborted_pure fun _ _ ask _ _ wait _ list _ watch =>
        .asked watch list wait some_job ask
  · intro w looks w' wait
    cases wait

/-- A check with a valid number of seconds that is not aborted goes by its plan. -/
theorem check_goes_by_plan (regular : m.Regular r) (view : JobView) {o : CheckOptions σ}
    (valid : Delay.validate o.sleepSeconds "sleepSeconds" = .ok ())
    {hear? : Option (StatusMap → Responder σ Unit)} (listens : o.onSnapshot = listener hear?)
    (s : Session σ) (down : (m.check view o s).session.signal ≠ .raised) :
    Checks r view hear? m.scope (o.statusQueues.getD view.relevantQueues) (o.sleepSeconds * 1000)
      s.outside (deeds (m.check view o s).events) (m.check view o s).outcome
      (m.check view o s).session.outside := by
  suffices told : Unaborted (m.check view o) (Checks r view hear? m.scope
      (o.statusQueues.getD view.relevantQueues) (Delay.ofSeconds o.sleepSeconds)) from
    told.holds s down
  rw [check_eq_decide, valid, require_ok_bind, regular.backed, listens]
  refine leaves_throwIfAborted.bind ?_
  refine unaborted_ask_bind rfl (fun _ _ _ read => .unread read) fun statuses => ?_
  refine (leaves_log _ _ _ _).bind ?_
  cases present : hear? with
  | none =>
    rw [listener, pure_bind]
    exact (unaborted_decide regular view valid statuses).imp fun _ _ _ _ decides _ read =>
      .unheard read rfl (m.scope.backlog_totalJobs statuses view) decides
  | some hear =>
    refine unaborted_ask_bind rfl (fun _ _ _ hears _ read => .refused read rfl hears) fun _ => ?_
    exact (unaborted_decide regular view valid statuses).imp fun _ _ _ _ decides _ hears _ read =>
      .heard read rfl hears (m.scope.backlog_totalJobs statuses view) decides

/-- Nobody is at work, and only a queue that is not relevant has jobs. By the time the awaited worker
is there the backlog has changed, but the check goes by what it has read. -/
theorem check_goes_by_plan_once_read :
    let idle : StatusMap :=
      (KeyedMap.empty.file "a" ⟨"a", .zero, .zero⟩).file "b" ⟨"b", 5, .zero⟩
    let busy : StatusMap := KeyedMap.empty.file "a" ⟨"a", 1, .zero⟩
    let play : Play := { backend :=
      { queueStatus := [.ok idle, .ok busy], activeQueues := [.ok none],
        workerIdentifiers := [.ok [], .ok ["mail@h"]] } }
    let m : Monitor Play := ⟨Play.responder.backend, Log.Logger.silent, .relevant, Run.delegateSleep⟩
    let accepts : StatusMap → Responder Play Unit := fun _ p => (⟨.ok (), false⟩, p)
    let view : JobView := ⟨["a"], ["mail"]⟩
    let o : CheckOptions Play := ⟨1, some ["a", "b"], listener (some accepts)⟩
    Backlog (JobsScope.all.Counts view) idle.values 5 ∧
      Checks Play.responder view (some accepts) .relevant ["a", "b"] 1000 play
        [.calls (.queueStatus ["a", "b"]), .handsOn idle, .calls (.watchQueues ["a"]),
          .calls .activeQueues, .calls .workerIdentifiers, .sleeps 1000, .calls .workerIdentifiers,
          .calls (.workersProcessing ["a"])]
        (.returned false) (m.check view o (Session.start 0 play)).session.outside := by
  intro idle busy play m accepts view o
  have regular : m.Regular Play.responder := ⟨rfl, leaves_delegateSleep⟩
  have fine : Delay.defect? o.sleepSeconds = none := by decide +kernel
  have valid := Delay.validate_eq_ok fine "sleepSeconds"
  have listens : o.onSnapshot = listener (some accepts) := rfl
  have down : (m.check view o (Session.start 0 play)).session.signal ≠ .raised := by
    decide +kernel
  have goes := check_goes_by_plan regular view valid listens (Session.start 0 play) down
  have done : deeds (m.check view o (Session.start 0 play)).events =
      [.calls (.queueStatus ["a", "b"]), .handsOn idle, .calls (.watchQueues ["a"]),
        .calls .activeQueues, .calls .workerIdentifiers, .sleeps 1000, .calls .workerIdentifiers,
        .calls (.workersProcessing ["a"])] := by
    decide +kernel
  have ended : (m.check view o (Session.start 0 play)).outcome = .returned false :=
    Outcome.returned?_eq_some.mp (by decide +kernel)
  have time : o.sleepSeconds * 1000 = 1000 := by decide +kernel
  have jobs : JobsScope.all.totalJobs idle view = 5 := by decide +kernel
  rw [done, ended, time] at goes
  exact ⟨jobs ▸ JobsScope.all.backlog_totalJobs idle view, goes⟩

end Monitor

end JobWatch
