import JobWatch.Proofs.Backend.Outages
import JobWatch.Proofs.Command.ExitCode
import JobWatch.Proofs.Watcher.Lifecycle

/-!
# What a program gives back

A program takes a client, the handles of queues and the attention to interrupts. The main statement
says that it gives all of them back before it exits, whatever its arguments, its files, its broker
and the time of an interrupt: the backend is disposed of once, after the last call of the command,
and the client is told farewell after that. What the program prints is not said here.
-/

namespace JobWatch

variable {σ β α : Type}

/-! ## Shutting a service down -/

/-- The calls by which a service gives back what it holds: all handles are closed, and then the
client is told farewell. -/
def Broker.releases (b : Broker β) (w : Service β) : List BrokerCall :=
  let closes := w.pool.handles.map .close
  closes ++ b.farewell (b.after w.broker closes)

def Event.isOfBackend : Event → Bool
  | .backend _ => true
  | _ => false

/-- The broker or a backend as a whole is called. -/
def Event.isCall : Event → Bool
  | .broker _ => true
  | e => e.isOfBackend

/-- Where no backend is called as a whole, the calls are those to the broker. -/
theorem filter_isCall {events : List Event} (others : ∀ e ∈ events, e.isOfBackend = false) :
    events.filter Event.isCall = (brokerCalls events).map .broker := by
  induction events with
  | nil => rfl
  | cons e rest ih =>
    have later := ih fun e listed => others e (List.mem_cons_of_mem _ listed)
    cases e with
    | broker call => exact congrArg (.broker call :: ·) later
    | backend call => cases others (.backend call) List.mem_cons_self
    | _ => exact later

theorem others_of_lines {lines : List Event} (lined : ∀ e ∈ lines, e.isLine = true) :
    ∀ e ∈ lines, e.isOfBackend = false := by
  intro e listed
  cases e with
  | console => rfl
  | _ => cases lined _ listed

namespace Run

theorem answered_listening (respond : Responder σ α) (s : Session σ) :
    (answered respond s).listening = s.listening := by
  unfold answered
  dsimp only
  split <;> rfl

/-- No backend is called as a whole, and the same interrupts are listened to as before. -/
structure Discreet (s : Session σ) (events : List Event) (s' : Session σ) : Prop where
  others : ∀ e ∈ events, e.isOfBackend = false
  listening : s'.listening = s.listening

theorem composes_discreet :
    Composes (Discreet : Session σ → List Event → Session σ → Prop) where
  still _ := ⟨List.forall_mem_nil _, rfl⟩
  line _ _ _ _ := ⟨List.forall_mem_singleton.mpr rfl, rfl⟩
  trans first later :=
    ⟨fun e listed => (List.mem_append.mp listed).elim (first.others e) (later.others e),
      later.listening.trans first.listening⟩

theorem discreet_call (c : BrokerCall) (respond : Responder β α) :
    Spans Discreet (call c respond) := by
  intro s
  refine ⟨?_, ?_⟩
  · rw [call_events]
    exact List.forall_mem_singleton.mpr rfl
  · rw [call, ask_session, answered_listening]

end Run

open Run

theorem QueueBackend.discreet_dispose (b : QueueBackend β) : Spans Discreet b.dispose :=
  spans_dispose composes_discreet (fun _ => discreet_call _ _)
    fun _ _ _ => ⟨List.forall_mem_nil _, rfl⟩

theorem Connection.Manager.discreet_close (m : Connection.Manager β) : Spans Discreet m.close :=
  m.spans_close composes_discreet (discreet_call _ _)
    (fun _ => ⟨List.forall_mem_singleton.mpr rfl, rfl⟩) fun _ => ⟨List.forall_mem_nil _, rfl⟩

/-- To be seen, a disposal adds one event to those it has. -/
theorem QueueBackend.outlined_dispose_events (b : QueueBackend β) (s : Session (Service β)) :
    (b.backend.outlined.dispose s).events = .backend .dispose :: (b.dispose s).events := by
  have undisposed : (b.dispose s).events.filter (!·.isDisposal) = (b.dispose s).events := by
    refine List.filter_eq_self.mpr fun e listed => ?_
    have other := (b.discreet_dispose s).others e listed
    cases e with
    | backend call => cases other
    | _ => rfl
  exact congrArg (_ :: ·) undisposed

namespace Watcher

variable {w : Watcher β} {broker : Broker β} {b : QueueBackend β}
  {manager : Connection.Manager β} {s : Session (Service β)}

/-- A disposal and a closing of the connection give back all that is held. -/
theorem IsOver.winding_up (parts : w.IsOver broker b manager) (live : s.outside.IsLive)
    (isOpen : s.outside.link.closed = false) :
    let disposed := b.dispose (ending s)
    brokerCalls (disposed.events ++ (manager.close disposed.session).events) =
      broker.releases s.outside := by
  intro disposed
  obtain ⟨_, closes, left⟩ := QueueBackend.dispose_run (b := b) (s := ending s) live.used
  obtain ⟨_, farewell⟩ := Connection.Manager.close_run (m := manager) (s := disposed.session)
    ((congrArg (fun o => o.link.closed) left).trans isOpen)
  rw [brokerCalls_append, closes, farewell, left, parts.closes, parts.asks]
  rfl

/-- A shutdown gives back all that the service holds, by one disposal and a farewell to the client
after it. -/
theorem IsOver.shutdown_releases (parts : w.IsOver broker b manager) (live : s.outside.IsLive)
    (isOpen : s.outside.link.closed = false) :
    (w.shutdown s).outcome ≠ .unfinished ∧
      brokerCalls (w.shutdown s).events = broker.releases s.outside ∧
      (w.shutdown s).session.listening = s.listening ∧
      (w.outlined.shutdown s).events.filter Event.isCall =
        .backend .dispose :: (broker.releases s.outside).map .broker ∧
      (w.outlined.shutdown s).session = (w.shutdown s).session := by
  have backend : w.backend = b.backend := parts.works.backend
  have closer : w.closeConnection = manager.close := by rw [closeConnection, parts.connection]
  let disposed := b.backend.dispose (ending s)
  let closed := manager.close disposed.session
  have ends : disposed.outcome ≠ .unfinished := b.behaves.ends (ending s)
  have released : brokerCalls (disposed.events ++ closed.events) = broker.releases s.outside :=
    parts.winding_up live isOpen
  have discreet : Discreet (ending s) (disposed.events ++ closed.events) closed.session :=
    composes_discreet.trans (b.discreet_dispose (ending s)) (manager.discreet_close _)
  have plain := w.shutdown_of_active live.active (backend ▸ ends)
  rw [backend, closer] at plain
  obtain ⟨before, after, lined, lined', ran⟩ := plain
  have outlined := w.outlined.shutdown_of_active (s := s) live.active
  rw [show w.outlined.backend = b.backend.outlined from congrArg Backend.outlined backend,
    show w.outlined.closeConnection = manager.close from closer] at outlined
  obtain ⟨opening, ending', first, last, ran'⟩ := outlined ends
  refine ⟨?_, ?_, ?_, ?_, ?_⟩
  · rw [ran]
    exact ends
  · rw [ran, brokerCalls_append, brokerCalls_append, brokerCalls_of_lines lined,
      brokerCalls_of_lines lined', List.append_nil, List.nil_append]
    exact released
  · rw [ran]
    exact discreet.listening
  · have rest : (disposed.events ++ closed.events ++ ending').filter Event.isCall =
        (broker.releases s.outside).map .broker := by
      rw [List.filter_append, filter_isCall discreet.others,
        filter_isCall (others_of_lines last), brokerCalls_of_lines last, released]
      exact List.append_nil _
    rw [ran', b.outlined_dispose_events, List.cons_append, List.cons_append, List.filter_append,
      filter_isCall (others_of_lines first), brokerCalls_of_lines first]
    exact congrArg (_ :: ·) rest
  · rw [ran, ran']
    rfl

/-! ## Queries that are not cut off -/

theorem requireActive_concludes : Concludes (requireActive : Run (Service β) Unit) := by
  refine concludes_of_ne fun s => ?_
  rw [requireActive, isShutDown_bind]
  by_cases shut : s.outside.shutDown = true
  · rw [if_pos shut]
    exact (concludes_fail _).ends s
  · rw [if_neg shut]
    exact (concludes_pure ()).ends s

theorem queryStatus_concludes (works : w.WorksWith b.backend) (job : Subject)
    (steps : List String) : Concludes (w.queryStatus job steps) := by
  refine requireActive_concludes.bind fun _ => (concludes_log _ _ _ _).bind fun _ =>
    (concludes_require _).bind fun queues => ?_
  rw [works.backend]
  exact b.queueStatus_concludes queues

theorem queryWorkers_concludes (works : w.WorksWith b.backend) (query : WorkerQuery) :
    Concludes (w.queryWorkers query) := by
  refine requireActive_concludes.bind fun _ => ?_
  rw [works.backend]
  exact (b.watchQueues_concludes _).bind fun _ => b.activeQueues_concludes.bind fun _ =>
    (concludes_require _).bind fun _ => (concludes_log _ _ _ _).bind fun _ => concludes_pure _

end Watcher

/-! ## Doing what is told -/

/-- A call that is no use of the handles of queues. -/
def Event.isBeyondUse : Event → Bool
  | .broker call => !call.isUse
  | e => e.isOfBackend

theorem BrokerCall.isWork_of_isUse {call : BrokerCall} (use : call.isUse = true) :
    call.isWork = true := by
  cases call <;> first | rfl | cases use

def BrokerCall.isConstruct : BrokerCall → Bool
  | .construct _ => true
  | _ => false

/-- The client is neither made nor told to quit. -/
def BrokerCall.isBetween (call : BrokerCall) : Bool := !call.isConstruct && call != .quit

theorem BrokerCall.isBetween_of_isWork {call : BrokerCall} (work : call.isWork = true) :
    call.isBetween = true := by
  cases call <;> first | rfl | cases work

/-- At most one client is made, and one that is made is told to quit once. -/
def QuitsWhatItMakes (calls : List BrokerCall) : Prop :=
  calls.countP BrokerCall.isConstruct ≤ 1 ∧
    calls.count .quit = calls.countP BrokerCall.isConstruct

theorem quitsWhatItMakes_nil : QuitsWhatItMakes [] := ⟨Nat.zero_le 1, rfl⟩

theorem quitsWhatItMakes_of_farewell (options : Connection.ClientOptions)
    {between : List BrokerCall} (others : ∀ call ∈ between, call.isBetween = true) (b : Broker β)
    (w : β) : QuitsWhatItMakes (.construct options :: (between ++ b.farewell w)) := by
  have constructs : between.countP BrokerCall.isConstruct = 0 :=
    List.countP_eq_zero.mpr fun call listed construct => by
      have other := others call listed
      rw [BrokerCall.isBetween, construct] at other
      cases other
  have quits : between.count .quit = 0 :=
    List.count_eq_zero.mpr fun listed => by cases others _ listed
  have farewell : (b.farewell w).countP BrokerCall.isConstruct = 0 ∧
      (b.farewell w).count .quit = 1 := by
    unfold Broker.farewell
    split <;> exact ⟨rfl, rfl⟩
  have made : (BrokerCall.construct options :: (between ++ b.farewell w)).countP
      BrokerCall.isConstruct = 1 := by
    rw [List.countP_cons, List.countP_append, constructs, farewell.1]
    rfl
  refine ⟨Nat.le_of_eq made, ?_⟩
  rw [made, List.count_cons, List.count_append, quits, farewell.2]
  rfl

namespace Command

variable {s : Setting β} {a : Args} {start : Session (Service β)}

/-- What is done with a service that has been set up. -/
def conduct (s : Setting β) (a : Args) (spec : Job.Spec) (w : Watcher β) : Run (Service β) Unit :=
  (perform s a spec w).ensuring do
    stopListening
    w.shutdown

theorem perform_outlined (s : Setting β) (a : Args) (spec : Job.Spec) (w : Watcher β) :
    perform s a spec w.outlined = perform s a spec w := by
  unfold perform
  cases a.verb with
  | status => rfl
  | workers => rfl
  | monitor => simp only [watchJob, Watcher.monitorUntilIdle_outlined]

/-- Once the command has ended, nobody listens to interrupts, and the service is shut down. -/
theorem conduct_trail (spec : Job.Spec) (w : Watcher β) {here : Session (Service β)}
    (ended : (perform s a spec w here).outcome ≠ .unfinished) :
    let done := perform s a spec w here
    let rest := w.shutdown { done.session with listening := [] }
    (conduct s a spec w here).events = done.events ++ rest.events ∧
      (conduct s a spec w here).session = rest.session :=
  ensuring_trail _ ended

section Handed

variable {w : Watcher β} {b : QueueBackend β} {here : Session (Service β)}

/-- A command uses the handles of queues. It calls no backend as a whole, and leaves the service
and its connection as they are. -/
theorem perform_uses (works : w.WorksWith b.backend) (live : here.outside.IsLive)
    (spec : Job.Spec) :
    let done := perform s a spec w here
    (∀ call ∈ brokerCalls done.events, call.isUse = true) ∧
      (∀ e ∈ done.events, e.isOfBackend = false) ∧ done.session.outside.IsLive ∧
      done.session.outside.link.closed = here.outside.link.closed := by
  intro done
  have spares : Spans (Spares Event.isBeyondUse) (perform s a spec w) :=
    spans_perform (composes_spares fun _ _ _ => rfl)
      (b.guides_spares (fun _ _ _ => rfl) fun c use => by simp [Event.isBeyondUse, use]) works
      (spares_pause (fun _ => rfl) fun _ => rfl) (fun _ _ => ⟨List.forall_mem_nil _, rfl, rfl⟩)
      s a spec
  obtain ⟨others, closed, _⟩ := spares here
  refine ⟨fun call listed => ?_, fun e listed => ?_, ?_, closed⟩
  · obtain ⟨e, seen, same⟩ := List.mem_filterMap.mp listed
    cases e with
    | broker call' =>
      obtain rfl := Option.some.inj same
      simpa [Event.isBeyondUse] using others _ seen
    | _ => cases same
  · cases e with
    | backend call => cases others _ listed
    | _ => rfl
  · exact keeps_perform works b.moves_live s a spec [] here live

theorem recordIfNamed_concludes (file : Option String) (m : StatusMap) :
    Concludes (recordIfNamed (β := β) file m) := by
  rw [recordIfNamed]
  cases file.filter (· ≠ "") with
  | none => exact concludes_pure ()
  | some file =>
    refine Concludes.bind (fun _ _ => trivial) fun here => ?_
    cases Report.recordIn file here.now m here.files with
    | ok files => exact fun _ _ => trivial
    | error f => exact concludes_fail _

/-- Only a run of checks is ever cut off. -/
theorem perform_concludes (works : w.WorksWith b.backend) (other : a.verb ≠ .monitor)
    (spec : Job.Spec) : Concludes (perform s a spec w) := by
  have printed (line : String) : Concludes (printLine line : Run (Service β) Unit) :=
    fun _ _ => trivial
  rw [perform]
  cases verb : a.verb with
  | monitor => exact absurd verb other
  | status =>
    exact (Watcher.queryStatus_concludes works _ _).bind fun statuses =>
      (printed _).bind fun _ => recordIfNamed_concludes _ statuses
  | workers =>
    refine (Watcher.queryWorkers_concludes works _).bind fun workers => ?_
    by_cases none : workers.isEmpty = true
    · simp only [if_pos none]
      exact printed _
    · simp only [if_neg none]
      exact printed _

end Handed

/-! ## Setting up -/

theorem loadSpec_apply (path : String) (s : Session σ) :
    (∃ f, (loadSpec path : Run σ Job.Spec) s = ⟨.threw (.failure f), [], s⟩) ∨
      ∃ spec, loadSpec path s = ⟨.returned spec, [], s⟩ := by
  rw [loadSpec, session_bind]
  cases s.files.read path with
  | error f => exact Or.inl ⟨f.failure, rfl⟩
  | ok source =>
    dsimp only
    cases Job.Spec.parse source with
    | error f => exact Or.inl ⟨f, rfl⟩
    | ok spec => exact Or.inr ⟨spec, rfl⟩

/-- Unless its spec is at fault, a program begins by setting up the service. -/
theorem prepare_apply (s : Setting β) (a : Args) (start : Session (Service β)) :
    (∃ t, prepare s a start = ⟨.threw t, [], start⟩) ∨ ∃ spec queues, prepare s a start = (do
      let watcher ← Watcher.create s.broker (a.config queues)
      listen
      return (spec, watcher)) start := by
  rcases loadSpec_apply a.specPath start with ⟨f, loaded⟩ | ⟨spec, loaded⟩
  · have threw : (loadSpec a.specPath start).outcome = .threw (.failure f) := by rw [loaded]
    exact Or.inl ⟨.failure f, by rw [prepare, bind_threw threw, loaded]⟩
  · have returned : (loadSpec a.specPath start).outcome = .returned spec := by rw [loaded]
    rw [prepare, bind_returned returned, loaded, List.nil_append]
    cases spec.queues [Job.everyStep] with
    | error f => exact Or.inl ⟨.failure f, rfl⟩
    | ok queues =>
      rw [require_ok_bind]
      exact Or.inr ⟨spec, queues, rfl⟩

/-- The preparation fails before there is a client, or it comes to a service on an open
connection, or its client is told farewell when something has failed. -/
theorem prepare_cases (s : Setting β) (a : Args) (isOpen : start.outside.link.closed = false) :
    let r := prepare s a start
    ((∃ t, r.outcome = .threw t) ∧ brokerCalls r.events = []) ∨
      ∃ options worked, (∀ call ∈ worked, call.isWork = true) ∧
        (((∃ p, r.outcome = .returned p) ∧ brokerCalls r.events = .construct options :: worked ∧
            r.session.outside.link.closed = false) ∨
          (∃ t, r.outcome = .threw t) ∧ ∃ w, brokerCalls r.events =
            .construct options :: (worked ++ s.broker.farewell w)) := by
  intro r
  rcases prepare_apply s a start with ⟨t, failed⟩ | ⟨spec, queues, begins⟩
  · rw [show r = _ from failed]
    exact Or.inl ⟨⟨t, rfl⟩, rfl⟩
  · rw [show r = _ from begins]
    rcases Watcher.create_cases s.broker (a.config queues) isOpen with
      ⟨t, failed⟩ | ⟨target, ⟨⟨w, returned⟩, calls, stillOpen⟩ | ⟨⟨t, threw⟩, calls⟩⟩
    · have threw : (Watcher.create s.broker (a.config queues) start).outcome = .threw t := by
        rw [failed]
      rw [bind_threw threw, failed]
      exact Or.inl ⟨⟨t, rfl⟩, rfl⟩
    · refine Or.inr ⟨target.options, _,
        Watcher.setup_isWork (a.config queues) s.broker start.outside, Or.inl ?_⟩
      rw [bind_returned returned]
      refine ⟨⟨(spec, w), rfl⟩, ?_, stillOpen⟩
      rw [brokerCalls_append, calls]
      exact List.append_nil _
    · refine Or.inr ⟨target.options, _,
        Watcher.setup_isWork (a.config queues) s.broker start.outside, Or.inr ?_⟩
      rw [bind_threw threw]
      exact ⟨⟨t, rfl⟩, _, calls⟩

/-! ## The whole program -/

theorem run_of_prepared {p : Job.Spec × Watcher β}
    (prepared : (prepare s a start).outcome = .returned p) :
    let set := prepare s a start
    let rest := conduct s a p.1 p.2 set.session
    run s a start = ⟨rest.outcome, set.events ++ rest.events, rest.session⟩ := by
  intro set rest
  rw [run_eq, bind_returned prepared]
  rfl

theorem run_of_unprepared {t : Thrown} (failed : (prepare s a start).outcome = .threw t) :
    (run s a start).outcome = .threw t ∧ (run s a start).events = (prepare s a start).events := by
  rw [run_eq, bind_threw failed]
  exact ⟨rfl, rfl⟩

theorem signOff_apply (s : Setting β) (result : Except Thrown Unit) (here : Session (Service β)) :
    ∃ code lines, signOff s result here = ⟨.returned code, lines, here⟩ ∧
      brokerCalls lines = [] := by
  cases result with
  | ok u => exact ⟨_, _, rfl, rfl⟩
  | error t => exact ⟨_, _, rfl, rfl⟩

/-- A program whose arguments are refused only says so. Any other one exits with the number for
what its run has come to, and only adds a line to it. -/
theorem execute_cases (s : Setting β) (argv : List String) (start : Session (Service β)) :
    let r := execute s argv start
    (∃ f, parse s.url argv = .error f ∧ r.outcome = .returned Exit.failed ∧
        brokerCalls r.events = []) ∨
      ∃ a, parse s.url argv = .ok a ∧ (∀ t, r.outcome ≠ .threw t) ∧
        (r.outcome = .unfinished ↔ (run s a start).outcome = .unfinished) ∧
        brokerCalls r.events = brokerCalls (run s a start).events ∧
        r.session = (run s a start).session := by
  intro r
  cases accepted : parse s.url argv with
  | error f =>
    refine Or.inl ⟨f, rfl, ?_⟩
    simp only [r, execute, accepted]
    exact ⟨rfl, rfl⟩
  | ok a =>
    refine Or.inr ⟨a, rfl, ?_⟩
    simp only [r, execute_eq accepted]
    by_cases cut : (run s a start).outcome = .unfinished
    · rw [bind_unfinished (attempt_unfinished cut), attempt_events, attempt_session]
      refine ⟨fun t threw => ?_, iff_of_true rfl cut, rfl, rfl⟩
      cases threw
    · obtain ⟨result, came⟩ := attempt_ends cut
      obtain ⟨code, lines, told, silent⟩ := signOff_apply s result (run s a start).session
      rw [bind_returned came, attempt_events, attempt_session, told]
      refine ⟨fun t threw => ?_, iff_of_false (fun ended => ?_) cut, ?_, rfl⟩
      · cases threw
      · cases ended
      · rw [brokerCalls_append, silent, List.append_nil]

/-- Once a command has ended, all that its service holds is given back. -/
theorem conduct_releases {w : Watcher β} {b : QueueBackend β} {manager : Connection.Manager β}
    {here : Session (Service β)} (parts : w.IsOver s.broker b manager)
    (live : here.outside.IsLive) (isOpen : here.outside.link.closed = false) (spec : Job.Spec)
    (ended : (perform s a spec w here).outcome ≠ .unfinished) :
    let done := perform s a spec w here
    let released := s.broker.releases done.session.outside
    let plain := conduct s a spec w here
    let outlined := conduct s a spec w.outlined here
    plain.outcome ≠ .unfinished ∧
      brokerCalls plain.events = brokerCalls done.events ++ released ∧
      plain.session.listening = [] ∧
      outlined.events.filter Event.isCall =
        (brokerCalls done.events).map .broker ++ .backend .dispose :: released.map .broker ∧
      outlined.session = plain.session := by
  intro done released plain outlined
  obtain ⟨_, others, live', closed⟩ := perform_uses (s := s) (a := a) parts.works live spec
  obtain ⟨ends, calls, listening, seen, same⟩ :=
    parts.shutdown_releases (s := { done.session with listening := [] }) live'
      (closed.trans isOpen)
  obtain ⟨events, session⟩ := conduct_trail spec w ended
  have trail := conduct_trail spec w.outlined (perform_outlined s a spec w ▸ ended)
  rw [perform_outlined] at trail
  obtain ⟨events', session'⟩ := trail
  refine ⟨ensuring_ends ended ends, ?_, ?_, ?_, ?_⟩
  · rw [show plain.events = _ from events, brokerCalls_append, calls]
  · rw [show plain.session = _ from session, listening]
  · rw [show outlined.events = _ from events', List.filter_append, seen, filter_isCall others]
  · exact session'.trans (same.trans session.symm)

/-- What a program does with a service that has been set up. -/
def performed (s : Setting β) (a : Args) (start : Session (Service β))
    (p : Job.Spec × Watcher β) : Result (Service β) Unit :=
  perform s a p.1 p.2 (prepare s a start).session

/-- A program whose service could be set up has given back all that it held. -/
structure GaveBack (s : Setting β) (a : Args) (start : Session (Service β))
    (p : Job.Spec × Watcher β) (r : Result (Service β) α) : Prop where
  /-- What the service holds when the command has ended is given back by the last calls. -/
  calls : brokerCalls r.events = brokerCalls (prepare s a start).events ++
    (brokerCalls (performed s a start p).events ++
      s.broker.releases (performed s a start p).session.outside)
  /-- The calls of the command itself neither make a client nor give anything back. -/
  uses : ∀ call ∈ brokerCalls (performed s a start p).events, call.isUse = true
  deaf : r.session.listening = []
  /-- Where the disposal of the backend can be seen, it comes once, between the two. -/
  disposal : (conduct s a p.1 p.2.outlined (prepare s a start).session).events.filter
      Event.isCall = (brokerCalls (performed s a start p).events).map .broker ++
    .backend .dispose ::
      (s.broker.releases (performed s a start p).session.outside).map .broker
  /-- To make it visible changes nothing. -/
  same : (conduct s a p.1 p.2.outlined (prepare s a start).session).session = r.session

theorem run_prepared {p : Job.Spec × Watcher β} (live : start.outside.IsLive)
    (prepared : (prepare s a start).outcome = .returned p)
    (stillOpen : (prepare s a start).session.outside.link.closed = false) :
    ((run s a start).outcome = .unfinished → a.verb = .monitor) ∧
      ((run s a start).outcome ≠ .unfinished → GaveBack s a start p (run s a start)) := by
  obtain ⟨b, manager, parts⟩ := isOver_of_prepare prepared
  have handed : (prepare s a start).session.outside.IsLive := keeps_prepare_live s a [] start live
  have gives := conduct_releases (a := a) parts handed stillOpen p.1
  rw [run_of_prepared prepared]
  refine ⟨fun cut => ?_, fun ended => ?_⟩
  · by_contra other
    have concludes := (perform_concludes (s := s) parts.works other p.1).ends
      (prepare s a start).session
    exact (gives concludes).1 cut
  · have done : (performed s a start p).outcome ≠ .unfinished := fun cut =>
      ended (ensuring_of_unfinished _ cut)
    obtain ⟨_, calls, deaf, disposal, same⟩ := gives done
    have uses := (perform_uses (s := s) (a := a) parts.works handed p.1).1
    refine ⟨?_, uses, deaf, disposal, same⟩
    rw [brokerCalls_append, calls]
    rfl

/-- Between the making of the client and the farewell to it, there are calls for work and the
closing of handles. -/
theorem GaveBack.quits {p : Job.Spec × Watcher β} {r : Result (Service β) α}
    (gave : GaveBack s a start p r) {options : Connection.ClientOptions}
    {worked : List BrokerCall} (work : ∀ call ∈ worked, call.isWork = true)
    (made : brokerCalls (prepare s a start).events = .construct options :: worked) :
    QuitsWhatItMakes (brokerCalls r.events) := by
  let used := brokerCalls (performed s a start p).events
  let left := (performed s a start p).session.outside
  let closes := left.pool.handles.map BrokerCall.close
  have all : brokerCalls r.events = .construct options ::
      (worked ++ used ++ closes ++ s.broker.farewell (s.broker.after left.broker closes)) := by
    rw [gave.calls, made, Broker.releases]
    simp only [List.cons_append, List.append_assoc, used, closes, left]
  rw [all]
  refine quitsWhatItMakes_of_farewell options (fun call listed => ?_) s.broker _
  rcases List.mem_append.mp listed with listed | closing
  · refine BrokerCall.isBetween_of_isWork ?_
    rcases List.mem_append.mp listed with before | use
    · exact work call before
    · exact BrokerCall.isWork_of_isUse (gave.uses call use)
  · obtain ⟨queue, _, rfl⟩ := List.mem_map.mp closing
    rfl

theorem run_gives_back (live : start.outside.IsLive)
    (isOpen : start.outside.link.closed = false) :
    let r := run s a start
    (r.outcome = .unfinished → a.verb = .monitor) ∧
      (r.outcome ≠ .unfinished → QuitsWhatItMakes (brokerCalls r.events) ∧
        ∀ p, (prepare s a start).outcome = .returned p → GaveBack s a start p r) := by
  intro r
  -- a preparation that has failed is all there is to the run
  have unprepared {t : Thrown} (failed : (prepare s a start).outcome = .threw t)
      (quits : QuitsWhatItMakes (brokerCalls (prepare s a start).events)) :
      (r.outcome = .unfinished → a.verb = .monitor) ∧
        (r.outcome ≠ .unfinished → QuitsWhatItMakes (brokerCalls r.events) ∧
          ∀ p, (prepare s a start).outcome = .returned p → GaveBack s a start p r) := by
    obtain ⟨threw, events⟩ := run_of_unprepared failed
    refine ⟨fun cut => ?_, fun _ => ⟨?_, fun p prepared => ?_⟩⟩
    · cases threw.symm.trans cut
    · rw [show r.events = _ from events]
      exact quits
    · cases failed.symm.trans prepared
  rcases prepare_cases s a isOpen with
    ⟨⟨t, failed⟩, none⟩ | ⟨options, worked, work, ⟨⟨p, prepared⟩, made, stillOpen⟩ | failing⟩
  · exact unprepared failed (none ▸ quitsWhatItMakes_nil)
  · obtain ⟨verb, gives⟩ := run_prepared live prepared stillOpen
    refine ⟨verb, fun ended => ⟨(gives ended).quits work made, fun p' prepared' => ?_⟩⟩
    obtain rfl := Outcome.returned.inj (prepared.symm.trans prepared')
    exact gives ended
  · obtain ⟨⟨t, failed⟩, w, made⟩ := failing
    refine unprepared failed (made ▸ quitsWhatItMakes_of_farewell options ?_ s.broker w)
    exact fun call listed => BrokerCall.isBetween_of_isWork (work call listed)

/-- A program never throws, and it is cut off only in a run of checks. If it is not, it has made at
most one client, which it has told to quit once. If its service could be set up, it has given back
all that it held: after the last call of the command the backend is disposed of once, after that
the client is told farewell, and nobody listens to interrupts in the end. -/
theorem gives_back_what_it_took (s : Setting β) (argv : List String) (start : Session (Service β))
    (live : start.outside.IsLive) (isOpen : start.outside.link.closed = false) :
    let r := execute s argv start
    (∀ t, r.outcome ≠ .threw t) ∧
      (r.outcome = .unfinished → ∃ a, parse s.url argv = .ok a ∧ a.verb = .monitor) ∧
      (r.outcome ≠ .unfinished → QuitsWhatItMakes (brokerCalls r.events) ∧
        ∀ a p, parse s.url argv = .ok a → (prepare s a start).outcome = .returned p →
          GaveBack s a start p r) := by
  intro r
  rcases execute_cases s argv start with
    ⟨f, refused, outcome, none⟩ | ⟨a, accepted, returns, cut, calls, session⟩
  · refine ⟨fun t threw => ?_, fun unfinished => ?_, fun _ => ⟨?_, fun a p accepted => ?_⟩⟩
    · cases outcome.symm.trans threw
    · cases outcome.symm.trans unfinished
    · rw [show brokerCalls r.events = [] from none]
      exact quitsWhatItMakes_nil
    · cases refused.symm.trans accepted
  · obtain ⟨verb, gives⟩ := run_gives_back (s := s) (a := a) live isOpen
    refine ⟨returns, fun unfinished => ⟨a, accepted, verb (cut.mp unfinished)⟩, fun ended => ?_⟩
    obtain ⟨quits, gave⟩ := gives fun unfinished => ended (cut.mpr unfinished)
    rw [show brokerCalls r.events = _ from calls]
    refine ⟨quits, fun a' p accepted' prepared => ?_⟩
    obtain rfl := Except.ok.inj (accepted.symm.trans accepted')
    obtain ⟨all, uses, deaf, disposal, same⟩ := gave p prepared
    rw [← show r.session = _ from session] at deaf same
    exact ⟨calls.trans all, uses, deaf, disposal, same⟩

/-- The table has been printed, but the handle cannot be closed, and neither can the client say
goodbye. -/
theorem gives_back_with_clinging_handle :
    let boom : Thrown := .failure (.plain "boom")
    let play : Play := { queues := [("a", { closing := [.error boom] })], quit := [.error boom] }
    let s : Setting Play := ⟨Play.broker, false, none, 10⟩
    let start := { Session.start 0 (Service.start Link.waiting play) with files := nightly }
    let r := execute s ["status", "spec.yaml"] start
    r.outcome.returned? = some Exit.failed ∧ QuitsWhatItMakes (brokerCalls r.events) ∧
      (∃ p, (prepare s statusOfNightly start).outcome = .returned p ∧
        GaveBack s statusOfNightly start p r) ∧
      (brokerCalls r.events).drop 3 =
        [.openHandle "a" (some "bull"), .jobCounts "a", .workers "a", .close "a", .quit,
          .disconnect] := by
  intro boom play s start r
  have exits : r.outcome.returned? = some Exit.failed := by decide +kernel
  have ended : r.outcome ≠ .unfinished := by
    intro cut
    rw [cut] at exits
    cases exits
  have created : (prepare s statusOfNightly start).outcome.returned?.isSome = true := by
    decide +kernel
  obtain ⟨p, came⟩ := Option.isSome_iff_exists.mp created
  have prepared := Outcome.returned?_eq_some.mp came
  obtain ⟨_, _, gives⟩ := gives_back_what_it_took s ["status", "spec.yaml"] start ⟨rfl, rfl⟩ rfl
  obtain ⟨quits, gave⟩ := gives ended
  have accepted : parse s.url ["status", "spec.yaml"] = .ok statusOfNightly := by decide +kernel
  refine ⟨exits, quits, ⟨p, prepared, gave _ p accepted prepared⟩, ?_⟩
  decide +kernel

end Command

end JobWatch
