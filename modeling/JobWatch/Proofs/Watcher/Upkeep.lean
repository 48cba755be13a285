import JobWatch.Proofs.Backend.Disposal
import JobWatch.Proofs.Connection.Upkeep
import JobWatch.Proofs.Monitor.Walk
import JobWatch.Watcher

/-!
# A service from its setting up to its shutdown

A service works with one backend, which its monitor shares; one that has been set up with a
connection of its own works with a backend over queues. Where the use of the backend leads, every
query of the service leads, so what the backend keeps the query keeps. A shutdown comes to what the
disposal of the backend comes to, whatever becomes of the connection.
-/

namespace JobWatch

variable {β α : Type}

/-- Neither disposed of nor shut down. -/
structure Service.IsLive (w : Service β) : Prop where
  used : w.pool.disposed = false
  active : w.shutDown = false

namespace Run

variable {σ : Type} {I : List BrokerCall → σ → Prop}

/-- Only those outside matter. -/
def Always (p : σ → Prop) (_ : List BrokerCall) (w : σ) : Prop := p w

end Run

namespace QueueBackend

open Run

/-- No use of a backend disposes of it. -/
theorem moves_live (b : QueueBackend β) : b.Moves (Always Service.IsLive) :=
  b.moves_of_calls (fun _ _ _ => keeps_call fun _ _ live => ⟨live.used, live.active⟩)
    fun _ _ _ _ live => ⟨live.used, live.active⟩

end QueueBackend

namespace Watcher

open Run

/-- The service works with the backend, and so does its monitor. -/
structure WorksWith (w : Watcher β) (b : Backend (Service β)) : Prop where
  backend : w.backend = b
  monitor : w.monitor.backend = b
  rests : w.monitor.sleep = Run.pause
  loop : w.loop.monitor = w.monitor
  naps : w.loop.sleep = Run.pause

/-! ## Setting it up -/

/-- A service is put together only if its configuration is valid. -/
theorem eq_of_assemble {backend : Backend (Service β)} {c : Config} {logger : Log.Logger}
    {connection : Option (Connection.Manager β)} {w : Watcher β}
    (made : assemble backend c logger connection = .ok w) :
    Delay.validate w.sleepSeconds "monitor.sleepSeconds" = .ok () ∧
      ∃ scope, JobsScope.ofName c.jobsScope = .ok scope ∧
        let monitor : Monitor (Service β) := ⟨backend, logger.child "Monitor", scope, Run.pause⟩
        w = ⟨backend, logger, monitor, .create monitor logger Run.pause,
          c.sleepSeconds.getD defaultSleepSeconds, connection⟩ := by
  dsimp only [assemble, Monitor.create] at made
  cases valid : Delay.validate (c.sleepSeconds.getD defaultSleepSeconds)
      "monitor.sleepSeconds" with
  | error f =>
    rw [valid] at made
    cases made
  | ok _ =>
    cases known : JobsScope.ofName c.jobsScope with
    | error f =>
      rw [valid, known] at made
      cases made
    | ok scope =>
      rw [valid, known] at made
      cases made
      exact ⟨valid, scope, rfl, rfl⟩

theorem worksWith_of_assemble {b : Backend (Service β)} {c : Config} {logger : Log.Logger}
    {connection : Option (Connection.Manager β)} {w : Watcher β}
    (made : assemble b c logger connection = .ok w) :
    w.WorksWith b ∧ w.connection = connection := by
  obtain ⟨_, scope, _, rfl⟩ := eq_of_assemble made
  exact ⟨⟨rfl, rfl, rfl, rfl, rfl⟩, rfl⟩

theorem assembled_of_build {broker : Broker β} {manager : Connection.Manager β} {c : Config}
    {logger : Log.Logger} {s : Session (Service β)} {w : Watcher β}
    (built : (build broker c logger manager s).outcome = .returned w) :
    ∃ b : QueueBackend β, b.broker = broker ∧
      assemble b.backend c logger (some manager) = .ok w := by
  obtain ⟨_, _, built, _⟩ := returned_of_bind built
  obtain ⟨b, selected, built, _⟩ := returned_of_bind built
  obtain ⟨watcher, assembled, built, _⟩ := returned_of_bind built
  obtain ⟨_, _, built, _⟩ := returned_of_bind built
  cases built
  refine ⟨b, QueueBackend.broker_of_select selected, ?_⟩
  cases made : assemble b.backend c logger (some manager) with
  | error f =>
    rw [made] at assembled
    cases assembled
  | ok watcher' =>
    rw [made] at assembled
    cases assembled
    rfl

/-- A service that has been set up was put together over the queues of its broker. -/
theorem assembled_of_create {broker : Broker β} {c : Config} {s : Session (Service β)}
    {w : Watcher β} (made : (create broker c s).outcome = .returned w) :
    ∃ (b : QueueBackend β) (manager : Connection.Manager β) (logger : Log.Logger),
      b.broker = broker ∧ manager.broker = broker ∧
        assemble b.backend c logger (some manager) = .ok w := by
  cases given : c.target? with
  | none =>
    rw [create, given] at made
    cases made
  | some target =>
    rw [create, given] at made
    obtain ⟨logger, _, made, _⟩ := returned_of_bind made
    obtain ⟨manager, constructed, made, _⟩ := returned_of_bind made
    obtain ⟨result, attempted, made, _⟩ := returned_of_bind made
    cases constructed
    cases result with
    | ok watcher =>
      cases made
      obtain ⟨b, asks, assembled⟩ := assembled_of_build (returned_of_attempt attempted)
      exact ⟨b, _, logger, asks, rfl, assembled⟩
    | error t =>
      obtain ⟨_, _, made, _⟩ := returned_of_bind made
      cases made

/-- What a service with a connection of its own is made of. -/
structure IsOver (w : Watcher β) (broker : Broker β) (b : QueueBackend β)
    (manager : Connection.Manager β) : Prop where
  works : w.WorksWith b.backend
  connection : w.connection = some manager
  asks : b.broker = broker
  closes : manager.broker = broker

/-- A service that has been set up works with a backend over the queues of its broker. -/
theorem isOver_of_create {broker : Broker β} {c : Config} {s : Session (Service β)}
    {w : Watcher β} (made : (create broker c s).outcome = .returned w) :
    ∃ b manager, w.IsOver broker b manager := by
  obtain ⟨b, manager, _, asks, closes, assembled⟩ := assembled_of_create made
  obtain ⟨works, connection⟩ := worksWith_of_assemble assembled
  exact ⟨b, manager, works, connection, asks, closes⟩

variable {w : Watcher β} {b : QueueBackend β} {I : List BrokerCall → Service β → Prop}

theorem keeps_build {broker : Broker β} {c : Config} {logger : Log.Logger}
    {manager : Connection.Manager β} (test : Keeps I manager.test)
    (select : Keeps I (QueueBackend.select broker c.backend logger)) :
    Keeps I (build broker c logger manager) :=
  test.bind fun _ => select.bind fun _ => (quiet_require _ I).bind fun _ =>
    (quiet_log I).bind fun _ => quiet_pure _ I

/-- A service keeps in its setting up what its parts keep. -/
theorem keeps_create {broker : Broker β} {c : Config}
    (construct : ∀ options, Keeps I (emit (.broker (.construct options))))
    (test : ∀ m : Connection.Manager β, Keeps I m.test)
    (select : ∀ logger, Keeps I (QueueBackend.select broker c.backend logger))
    (close : ∀ m : Connection.Manager β, Keeps I m.close) : Keeps I (create broker c) := by
  rw [create]
  cases c.target? with
  | none => exact quiet_fail _ I
  | some target =>
    refine (quiet_require _ I).bind fun logger =>
      ((construct _).bind fun _ => quiet_pure _ I).bind fun manager =>
        (keeps_build (test manager) (select logger)).attempt.bind fun result => ?_
    cases result with
    | ok watcher => exact quiet_pure watcher I
    | error t => exact (close manager).bind fun _ => quiet_throw t I

/-- Setting up a service neither disposes of its backend nor shuts it down. -/
theorem keeps_create_live (broker : Broker β) (c : Config) :
    Keeps (Always Service.IsLive) (create broker c) := by
  have asking {α : Type} (call : BrokerCall) (respond : Responder β α) :
      Keeps (Always Service.IsLive) (Run.call call respond) :=
    keeps_call fun _ _ live => ⟨live.used, live.active⟩
  refine keeps_create (fun _ _ _ live => live) (fun m => ?_) (fun logger => ?_) fun m => ?_
  · exact m.keeps_test (asking _ _) (asking _ _) fun _ _ live => ⟨live.used, live.active⟩
  · exact QueueBackend.keeps_select (fun _ _ _ _ live => ⟨rfl, live.active⟩)
      (fun b => b.moves_live.watch _) broker logger
  · exact m.keeps_close (asking _ _) (fun _ _ live => live) fun _ _ live => ⟨live.used, live.active⟩

/-! ## Asking it -/

section Asking

variable {R : Session (Service β) → List Event → Session (Service β) → Prop}
  {backend : Backend (Service β)}

theorem spans_requireActive (composes : Composes R) : Spans R requireActive := by
  refine composes.bind (composes.bind composes.outside fun _ => composes.pure _) fun ended => ?_
  by_cases shut : ended = true
  · simp only [if_pos shut]
    exact composes.fail _
  · simp only [if_neg shut]
    exact composes.pure ()

variable (composes : Composes R) (guides : backend.Guides R) (works : w.WorksWith backend)

include composes guides works

theorem spans_queryStatus (job : Subject) (steps : List String) :
    Spans R (w.queryStatus job steps) := by
  refine composes.bind (spans_requireActive composes) fun _ =>
    composes.bind (composes.log _ _ _ _) fun _ =>
      composes.bind (composes.require _) fun queues => ?_
  rw [works.backend]
  exact guides.queueStatus queues

theorem spans_activeQueues (queues : List String) : Spans R (w.activeQueues queues) := by
  refine composes.bind (spans_requireActive composes) fun _ => ?_
  rw [works.backend]
  exact composes.bind (guides.watchQueues _) fun _ =>
    composes.bind guides.activeQueues fun _ => composes.pure _

theorem spans_workers (queues : List String) : Spans R (w.workers queues) := by
  refine composes.bind (spans_requireActive composes) fun _ => ?_
  rw [works.backend]
  exact composes.bind (guides.watchQueues _) fun _ => guides.workerIdentifiers

theorem spans_queryWorkers (query : WorkerQuery) : Spans R (w.queryWorkers query) := by
  refine composes.bind (spans_requireActive composes) fun _ => ?_
  rw [works.backend]
  exact composes.bind (guides.watchQueues _) fun _ => composes.bind guides.activeQueues fun _ =>
    composes.bind (composes.require _) fun _ => composes.bind (composes.log _ _ _ _) fun _ =>
      composes.pure _

theorem spans_checkStatus (pauses : ∀ ms, Spans R (pause ms)) (job : Subject) (o : Options) :
    Spans R (w.checkStatus job o) :=
  composes.bind (spans_requireActive composes) fun _ => composes.bind (composes.require _)
    fun view => Monitor.spans_check composes (works.monitor ▸ guides)
      (fun ms => works.rests ▸ pauses ms) view fun _ => composes.pure ()

theorem spans_monitorUntilIdle (pauses : ∀ ms, Spans R (pause ms)) (limit : Nat) (job : Subject)
    (o : Options) {report : StatusMap → Run (Service β) Unit}
    (reports : ∀ statuses, Spans R (report statuses)) :
    Spans R (w.monitorUntilIdle limit job o report) := by
  refine composes.bind (spans_requireActive composes) fun _ =>
    composes.bind (composes.require _) fun view => MonitorLoop.spans_run composes ?_ ?_ limit
  · rw [works.loop]
    exact Monitor.spans_check composes (works.monitor ▸ guides)
      (fun ms => works.rests ▸ pauses ms) view reports
  · exact composes.bind (composes.log _ _ _ _) fun _ => works.naps ▸ pauses _

end Asking

/-! ## Shutting down -/

theorem modifyOutside_bind {σ : Type} (f : σ → σ) (g : Unit → Run σ α) (s : Session σ) :
    (modifyOutside f >>= g) s = g () { s with outside := f s.outside } := rfl

theorem isShutDown_bind (f : Bool → Run (Service β) α) (s : Session (Service β)) :
    (isShutDown >>= f) s = f s.outside.shutDown s := rfl

theorem closeConnection_returned (w : Watcher β) (s : Session (Service β)) :
    (w.closeConnection s).outcome = .returned () := by
  unfold closeConnection
  cases w.connection with
  | some manager => exact manager.close_returned s
  | none => rfl

/-- The session in which the backend of a service is disposed of. -/
def ending (s : Session (Service β)) : Session (Service β) :=
  { s with outside := { s.outside with shutDown := true } }

/-- A service that has been shut down already only says so. -/
theorem shutdown_of_shutDown (w : Watcher β) {s : Session (Service β)}
    (shut : s.outside.shutDown = true) :
    ∃ lines, (∀ e ∈ lines, e.isLine = true) ∧ w.shutdown s = ⟨.returned (), lines, s⟩ := by
  obtain ⟨lines, logs, lined⟩ := log_apply w.logger .warn "QueueWatch is already shut down" [] s
  refine ⟨lines, lined, ?_⟩
  rw [shutdown, isShutDown_bind, if_pos shut]
  exact logs

/-- A first shutdown disposes of the backend and then closes the connection, and comes to what the
disposal has come to. -/
theorem shutdown_of_active (w : Watcher β) {s : Session (Service β)}
    (active : s.outside.shutDown = false)
    (ended : (w.backend.dispose (ending s)).outcome ≠ .unfinished) :
    let disposed := w.backend.dispose (ending s)
    let closed := w.closeConnection disposed.session
    ∃ before after, (∀ e ∈ before, e.isLine = true) ∧ (∀ e ∈ after, e.isLine = true) ∧
      w.shutdown s = ⟨disposed.outcome, before ++ (disposed.events ++ closed.events ++ after),
        closed.session⟩ := by
  intro disposed closed
  let cleanup := w.backend.dispose.ensuring w.closeConnection
  obtain ⟨events, session⟩ := ensuring_trail w.closeConnection ended
  have outcome : (cleanup (ending s)).outcome = disposed.outcome :=
    ensuring_of_returned (w.closeConnection_returned _)
  obtain ⟨after, lined', logs⟩ :=
    bind_log cleanup w.logger .info "QueueWatch shutdown complete" [] (ending s)
  let farewell : Run (Service β) Unit := do
    modifyOutside fun w => { w with shutDown := true }
    cleanup
    w.logger.info "QueueWatch shutdown complete"
  have left : farewell s =
      ⟨disposed.outcome, disposed.events ++ closed.events ++ after, closed.session⟩ := by
    refine (modifyOutside_bind _ _ s).trans (logs.trans ?_)
    rw [outcome, events, session]
  obtain ⟨before, lined, told⟩ :=
    log_bind w.logger .info "Shutting down QueueWatch" [] (fun _ => farewell) s
  refine ⟨before, after, lined, lined', ?_⟩
  rw [shutdown, isShutDown_bind, if_neg (by simp [active])]
  refine told.trans ?_
  rw [left]

/-- A shutdown comes to what the disposal of the backend comes to. -/
theorem WorksWith.shutdown_outcome (works : w.WorksWith b.backend) {s : Session (Service β)}
    (live : s.outside.IsLive) :
    (w.shutdown s).outcome =
      .ofFault? (b.broker.closeFault? s.outside.broker s.outside.pool.handles) := by
  have disposed : (w.backend.dispose (ending s)).outcome =
      .ofFault? (b.broker.closeFault? s.outside.broker s.outside.pool.handles) := by
    rw [works.backend]
    exact QueueBackend.dispose_outcome (s := ending s) live.used
  have ended : (w.backend.dispose (ending s)).outcome ≠ .unfinished := by
    rw [disposed]
    exact Outcome.ofFault?_ends _
  obtain ⟨_, _, _, _, ran⟩ := w.shutdown_of_active live.active ended
  rw [ran]
  exact disposed

end Watcher

end JobWatch
