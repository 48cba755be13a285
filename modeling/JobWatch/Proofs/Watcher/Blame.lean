import JobWatch.Proofs.Backend.Outages
import JobWatch.Proofs.Run.Throws
import JobWatch.Proofs.Watcher.Upkeep

/-!
# Who is to blame for a failure of the configuration

A service with a valid configuration never complains about it: neither in being set up, nor in
answering questions with valid sleeps, nor in being shut down. So if it throws a failure of the
configuration all the same, then the broker has thrown that failure at it. What else is thrown is
left open.
-/

namespace JobWatch

variable {β α : Type}

/-- If this is a failure of the configuration, the broker has thrown it. -/
def Broker.Blamed (b : Broker β) (t : Thrown) : Prop :=
  t.isOf .configuration = true → ∃ w call, b.fault? w call = some t

namespace Broker

variable {b : Broker β} {t : Thrown}

theorem blamed_of_other (other : t.isOf .configuration = false) : b.Blamed t := by
  intro configured
  rw [other] at configured
  cases configured

theorem blamed_of_unavailable (unavailable : t.isOf .backendUnavailable = true) :
    b.Blamed t := by
  apply blamed_of_other
  cases t with
  | value v => rfl
  | failure f =>
    cases f with
    | backendUnavailable => rfl
    | breakerOpen => rfl
    | foreign mismatch message => cases mismatch <;> cases unavailable
    | _ => cases unavailable

theorem BreaksOff.blamed {w : β} {calls : List BrokerCall} (broke : b.BreaksOff w calls t) :
    b.Blamed t := by
  obtain ⟨earlier, last, _, _, failed⟩ := broke
  exact fun _ => ⟨_, last, failed⟩

theorem blamed_of_closeFault? {w : β} {queues : List String}
    (failed : b.closeFault? w queues = some t) : b.Blamed t := by
  induction queues generalizing w with
  | nil => cases failed
  | cons queue rest ih =>
    rw [closeFault?] at failed
    cases came : (b.close queue w).1.outcome with
    | ok u =>
      rw [came] at failed
      exact ih failed
    | error t' =>
      rw [came] at failed
      cases failed
      refine fun _ => ⟨w, .close queue, ?_⟩
      rw [fault?, thrownBy, came]

end Broker

open Run

theorem Run.throws_of_stops {b : Broker β} {x : Run (Service β) α}
    (stops : ∀ s, StopsAtFault b x s) : Throws b.Blamed x := by
  intro s t threw
  have ends := (stops s).ends
  rw [threw] at ends
  exact Broker.BreaksOff.blamed ends

namespace QueueBackend

/-- What a query throws has to do with the backend. -/
theorem throws_unavailable (b : QueueBackend β) (operation : String) {trip : Run (Service β) α}
    (stops : ∀ s, StopsAtFault b.broker trip s) :
    Throws (fun t => t.isOf .backendUnavailable = true) (b.roundTrip operation trip) := by
  intro s t threw
  cases used : s.outside.pool.disposed with
  | true =>
    rw [roundTrip_of_disposed used] at threw
    cases threw
    rfl
  | false =>
    cases roundTrip_ends used operation stops with
    | resolved _ came =>
      obtain ⟨a, came⟩ := came
      cases came.symm.trans threw
    | refused _ came =>
      cases came.symm.trans threw
      rfl
    | failed _ f _ _ came unavailable =>
      cases came.symm.trans threw
      exact unavailable

theorem throws_roundTrip (b : QueueBackend β) (operation : String) {trip : Run (Service β) α}
    (stops : ∀ s, StopsAtFault b.broker trip s) :
    Throws b.broker.Blamed (b.roundTrip operation trip) := fun s t threw =>
  Broker.blamed_of_unavailable (b.throws_unavailable operation stops s t threw)

theorem throws_dispose (b : QueueBackend β) : Throws b.broker.Blamed b.dispose := by
  intro s t threw
  cases used : s.outside.pool.disposed with
  | true =>
    rw [dispose_of_disposed used] at threw
    cases threw
  | false =>
    rw [dispose_outcome used] at threw
    cases failed : b.broker.closeFault? s.outside.broker s.outside.pool.handles with
    | none =>
      rw [failed] at threw
      cases threw
    | some t' =>
      rw [failed] at threw
      cases threw
      exact Broker.blamed_of_closeFault? failed

theorem throws_select (broker : Broker β) (c : Config) (logger : Log.Logger) :
    Throws broker.Blamed (select broker c logger) := by
  rw [select]
  by_cases known : Connection.filled c.type Backend.typeName = Backend.typeName
  · rw [if_pos known]
    refine (throws_modify _).bind fun _ => Throws.bind ?_ fun _ => throws_pure _
    exact throws_of_stops (b := broker) fun _ => stopsAtFault_watch (b := ⟨broker, _, _⟩) _
  · rw [if_neg known]
    exact throws_fail (Broker.blamed_of_other rfl)

end QueueBackend

theorem Connection.Manager.throws_test {broker : Broker β} (m : Connection.Manager β) :
    Throws broker.Blamed m.test := by
  refine (throws_attempt _).bind fun result => ?_
  cases result with
  | ok _ => exact throws_log _ _ _ _
  | error t => exact (throws_log _ _ _ _).bind fun _ => throws_fail (Broker.blamed_of_other rfl)

namespace Monitor

variable {m : Monitor (Service β)} {b : QueueBackend β}

/-- A check that hands its reading on to someone who never complains about the configuration does
not complain about it either. -/
theorem throws_check (backend : m.backend = b.backend) (rests : m.sleep = Run.pause)
    (view : JobView) {o : CheckOptions (Service β)}
    (valid : Delay.validate o.sleepSeconds "sleepSeconds" = .ok ())
    (handOn : ∀ statuses, Throws b.broker.Blamed (o.onSnapshot statuses))
    (ends : ∀ statuses, Concludes (o.onSnapshot statuses)) :
    Throws b.broker.Blamed (m.check view o) := by
  have aborted : b.broker.Blamed (.failure .aborted) := Broker.blamed_of_other rfl
  have delivers : m.Delivers (fun _ _ => True) fun t _ => b.broker.Blamed t :=
    { aborted := fun _ _ _ _ => aborted
      read := fun _ queues => by
        rw [backend]
        exact (b.throws_roundTrip _ fun _ => b.stopsAtFault_readStatuses _ _).comes
          (b.queueStatus_concludes queues)
      watch := fun _ queues => by
        rw [backend]
        exact (throws_of_stops fun _ => b.stopsAtFault_watch queues).comes
          (b.watchQueues_concludes queues)
      active := fun _ => by
        rw [backend]
        exact (b.throws_roundTrip _ fun _ => b.stopsAtFault_active).comes b.activeQueues_concludes
      look := fun _ => by
        rw [backend]
        exact ((b.throws_roundTrip _ fun _ => b.stopsAtFault_active).comes
          b.activeQueues_concludes).bind fun _ => comes_pure fun _ _ => trivial
      busy := fun _ queues => by
        rw [backend]
        exact (b.throws_roundTrip _ fun _ => b.stopsAtFault_anyProcessing queues).comes
          (b.roundTrip_concludes _ fun _ => b.stopsAtFault_anyProcessing queues)
      sleep := fun _ ms => by
        rw [rests]
        exact (throws_pause aborted ms).comes (concludes_of_ne (pause_ends ms)) }
  refine Comes.throws ((delivers.check (fun _ _ => Broker.blamed_of_other rfl) valid
    fun statuses => (handOn statuses).comes (ends statuses)).of_pre fun _ _ => ⟨0, trivial⟩)

end Monitor

theorem MonitorLoop.throws_run {σ : Type} {fails : Thrown → Prop} {l : MonitorLoop σ}
    {view : JobView} {o : WatchOptions σ}
    (check : Throws fails (l.monitor.check view ⟨o.sleepSeconds, o.statusQueues, o.report⟩))
    (sleep : ∀ ms, Throws fails (l.sleep ms)) (limit : Nat) :
    Throws fails (l.run limit view o) := by
  have checks (left done : Nat) : Throws fails (l.checkUntilIdle view o left done) := by
    induction left generalizing done with
    | zero => exact throws_unfinished
    | succ left ih =>
      refine check.bind fun active => ?_
      by_cases idle : (!active) = true
      · simp only [if_pos idle]
        exact throws_pure _
      · simp only [if_neg idle]
        exact (throws_log _ _ _ _).bind fun _ => (sleep _).bind fun _ => ih _
  exact throws_now.bind fun _ => (checks limit 0).bind fun _ => throws_now.bind fun _ =>
    (throws_log _ _ _ _).bind fun _ => throws_pure _

namespace Watcher

variable {broker : Broker β} {c : Config} {w : Watcher β} {b : QueueBackend β}

/-- A configuration that nothing can be said against. -/
structure Config.Valid (c : Config) : Prop where
  target : c.target? ≠ none
  logging : ∃ logger, Log.Logger.create c.logging = .ok logger
  sleep : Delay.validate (c.sleepSeconds.getD defaultSleepSeconds) "monitor.sleepSeconds" = .ok ()
  scope : ∃ scope, JobsScope.ofName c.jobsScope = .ok scope

theorem Config.Valid.assembles (valid : c.Valid) (backend : Backend (Service β))
    (logger : Log.Logger) (connection : Option (Connection.Manager β)) :
    ∃ w, assemble backend c logger connection = .ok w := by
  obtain ⟨scope, known⟩ := valid.scope
  rw [assemble, valid.sleep, Monitor.create, known]
  exact ⟨_, rfl⟩

theorem throws_create (valid : c.Valid) : Throws broker.Blamed (create broker c) := by
  rw [create]
  cases given : c.target? with
  | none => exact absurd given valid.target
  | some target =>
    obtain ⟨logger, logging⟩ := valid.logging
    have built (logger : Log.Logger) (m : Connection.Manager β) :
        Throws broker.Blamed (build broker c logger m) := by
      refine m.throws_test.bind fun _ => (QueueBackend.throws_select _ _ _).bind fun queues => ?_
      obtain ⟨watcher, assembled⟩ := valid.assembles queues.backend logger (some m)
      rw [assembled]
      exact (throws_pure _).bind fun _ => (throws_log _ _ _ _).bind fun _ => throws_pure _
    simp only [logging, require_ok_bind]
    refine (throws_of_returns fun _ => ⟨_, rfl⟩).bind fun manager => ?_
    -- what is thrown in the end is what the building has thrown
    refine (throws_attempt _).bind_of_returned fun s result tried => ?_
    cases result with
    | ok watcher => exact throws_pure _
    | error t =>
      have closed : Throws broker.Blamed manager.close :=
        throws_of_returns fun s => ⟨(), manager.close_returned s⟩
      exact closed.bind fun _ => throws_throw (built _ _ s t (threw_of_attempt tried))

theorem throws_isShutDown : Throws broker.Blamed (isShutDown : Run (Service β) Bool) :=
  throws_of_returns fun s => ⟨s.outside.shutDown, rfl⟩

theorem throws_requireActive : Throws broker.Blamed (requireActive : Run (Service β) Unit) := by
  refine throws_isShutDown.bind fun shut => ?_
  cases shut with
  | false => exact throws_pure _
  | true => exact throws_fail (Broker.blamed_of_other rfl)

section Working

variable (works : w.WorksWith b.backend)

include works

theorem throws_queryStatus {job : Subject} {steps : List String}
    (selects : ∀ f, selectQueues job steps = .error f → b.broker.Blamed (.failure f)) :
    Throws b.broker.Blamed (w.queryStatus job steps) := by
  refine throws_requireActive.bind fun _ => (throws_log _ _ _ _).bind fun _ =>
    (throws_require selects).bind fun queues => ?_
  rw [works.backend]
  exact b.throws_roundTrip _ fun _ => b.stopsAtFault_readStatuses _ _

theorem throws_queryWorkers {query : WorkerQuery}
    (reads : ∀ active, ∃ found, filterWorkers active query = .ok found) :
    Throws b.broker.Blamed (w.queryWorkers query) := by
  refine throws_requireActive.bind fun _ => ?_
  rw [works.backend]
  refine (throws_of_stops fun _ => b.stopsAtFault_watch _).bind fun _ =>
    (b.throws_roundTrip _ fun _ => b.stopsAtFault_active).bind fun snapshot => ?_
  obtain ⟨found, passed⟩ := reads snapshot.activeQueues
  rw [passed]
  exact (throws_pure _).bind fun _ => (throws_log _ _ _ _).bind fun _ => throws_pure _

theorem throws_monitorUntilIdle {job : Subject} {o : Options}
    {report : StatusMap → Run (Service β) Unit}
    (known : ∀ f, job.toView = .error f → b.broker.Blamed (.failure f))
    (valid : Delay.validate (o.sleepSeconds.getD w.sleepSeconds) "sleepSeconds" = .ok ())
    (reports : ∀ statuses, Throws b.broker.Blamed (report statuses))
    (ends : ∀ statuses, Concludes (report statuses)) (limit : Nat) :
    Throws b.broker.Blamed (w.monitorUntilIdle limit job o report) := by
  refine throws_requireActive.bind fun _ => (throws_require known).bind fun view =>
    MonitorLoop.throws_run ?_ (fun ms => ?_) limit
  · rw [works.loop]
    exact Monitor.throws_check works.monitor works.rests view valid reports ends
  · rw [works.naps]
    exact throws_pause (Broker.blamed_of_other rfl) ms

theorem throws_shutdown : Throws b.broker.Blamed w.shutdown := by
  have closed : Throws b.broker.Blamed w.closeConnection :=
    throws_of_returns fun s => ⟨(), w.closeConnection_returned s⟩
  have disposed : Throws b.broker.Blamed w.backend.dispose := by
    rw [works.backend]
    exact b.throws_dispose
  refine throws_isShutDown.bind fun shut => ?_
  cases shut with
  | true => exact throws_log _ _ _ _
  | false =>
    exact (throws_log _ _ _ _).bind fun _ => (throws_modify _).bind fun _ =>
      (disposed.ensuring closed).bind fun _ => throws_log _ _ _ _

end Working

end Watcher

end JobWatch
