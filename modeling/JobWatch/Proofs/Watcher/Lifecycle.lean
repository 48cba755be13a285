import JobWatch.Proofs.Watcher.Custody
import JobWatch.Report.Csv

/-!
# A service from its first request to its last

A service is asked one thing after another, each request after the end of the one before, and is
told to shut down any number of times. Disposing of its backend and saying goodbye to its client
are what it parts with. The main statement says at which requests it parts, and with what: never
before the first shutdown, completely at the first shutdown however that goes, and never again.
What a query answers while the service is active is not said here.
-/

namespace JobWatch

open Run

variable {σ β α : Type}

/-! ## Parting -/

def Event.isDisposal : Event → Bool
  | .backend .dispose => true
  | _ => false

/-- A goodbye to the broker, or the cutting off of its client. -/
def Event.isGoodbye : Event → Bool
  | .broker call => call.isFarewell
  | _ => false

/-- The client is told to quit. -/
def Event.isQuit : Event → Bool
  | .broker .quit => true
  | _ => false

def Event.isParting (e : Event) : Bool := e.isDisposal || e.isGoodbye

/-- What has been seen is of other kinds, and neither the connection nor the service was closed or
opened. -/
structure Spares (kind : Event → Bool) (s : Session (Service β)) (events : List Event)
    (s' : Session (Service β)) : Prop where
  others : ∀ e ∈ events, kind e = false
  closed : s'.outside.link.closed = s.outside.link.closed
  shutDown : s'.outside.shutDown = s.outside.shutDown

section Sparing

variable {kind : Event → Bool}

theorem composes_spares
    (lines : ∀ channel text details, kind (.console channel text details) = false) :
    Composes (Spares (β := β) kind) where
  still _ := ⟨List.forall_mem_nil _, rfl, rfl⟩
  line _ _ _ _ := ⟨List.forall_mem_singleton.mpr (lines _ _ _), rfl, rfl⟩
  trans first later :=
    ⟨fun e listed => (List.mem_append.mp listed).elim (first.others e) (later.others e),
      later.closed.trans first.closed, later.shutDown.trans first.shutDown⟩

theorem spares_call {c : BrokerCall} (other : kind (.broker c) = false)
    (respond : Responder β α) : Spans (Spares kind) (call c respond) := by
  intro s
  rw [call_events]
  refine ⟨List.forall_mem_singleton.mpr other, ?_, ?_⟩ <;> rw [call_outside]

/-- Whoever answers from behind a service does not touch what is the service's own. -/
theorem spares_behind {e : Event} (other : kind e = false) (respond : Responder β α) :
    Spans (Spares kind) (ask e (BackendResponder.behind respond)) := by
  intro s
  rw [ask_events, ask_session]
  refine ⟨List.forall_mem_singleton.mpr other, ?_, ?_⟩ <;> rw [answered_outside] <;> rfl

theorem spares_pause (timers : ∀ ms, kind (.timer ms) = false)
    (interrupts : ∀ name, kind (.interrupt name) = false) (ms : Binary64) :
    Spans (Spares (β := β) kind) (pause ms) := by
  intro s
  have outside := (quiet_pause (σ := Service β) ms).outside s
  refine ⟨?_, by rw [outside], by rw [outside]⟩
  rcases pause_cases ms s with ⟨_, none⟩ | ⟨_, ⟨later, seen, interrupted⟩, _⟩
  · rw [none]
    exact List.forall_mem_nil _
  · rw [seen]
    intro e listed
    rcases List.mem_cons.mp listed with rfl | listed
    · exact timers ms
    · obtain ⟨name, rfl⟩ := interrupted e listed
      exact interrupts name

end Sparing

theorem composes_without_parting : Composes (Spares (β := β) Event.isParting) :=
  composes_spares fun _ _ _ => rfl

theorem composes_without_goodbye : Composes (Spares (β := β) Event.isGoodbye) :=
  composes_spares fun _ _ _ => rfl

/-- A backend that a service may work with: its use is no parting, and its disposal comes to an end
and is nobody's goodbye. -/
structure Backend.Behaves (b : Backend (Service β)) : Prop where
  uses : b.Guides (Spares Event.isParting)
  disposal : Spans (Spares Event.isGoodbye) b.dispose
  ends : ∀ s, (b.dispose s).outcome ≠ .unfinished

/-- The use of a backend over queues is nothing but calls through handles. -/
theorem QueueBackend.guides_spares (b : QueueBackend β) {kind : Event → Bool}
    (lines : ∀ channel text details, kind (.console channel text details) = false)
    (uses : ∀ c : BrokerCall, c.isUse = true → kind (.broker c) = false) :
    b.backend.Guides (Spares kind) :=
  (steps_of_calls (composes_spares lines) (fun c respond use => spares_call (uses c use) respond)
    fun _ _ _ => ⟨List.forall_mem_nil _, rfl, rfl⟩).guides (composes_spares lines)

theorem QueueBackend.behaves (b : QueueBackend β) : b.backend.Behaves where
  uses := b.guides_spares (fun _ _ _ => rfl) fun c use => by
    cases c <;> first | rfl | cases use
  disposal := spans_dispose composes_without_goodbye (fun queue => spares_call rfl _)
    fun s handles disposed => ⟨List.forall_mem_nil _, rfl, rfl⟩
  ends := b.dispose_ends

theorem BackendResponder.behaves (r : BackendResponder β) : r.inService.backend.Behaves where
  uses :=
    { watchQueues := fun _ => spares_behind rfl _
      queueStatus := fun _ => spares_behind rfl _
      activeQueues := spares_behind rfl _
      workerIdentifiers := spares_behind rfl _
      workersProcessing := fun _ => spares_behind rfl _ }
  disposal := spares_behind rfl _
  ends := ask_ends _ _

/-! ## Disposals made visible -/

/-- A disposal that is seen as one call of the backend. -/
def Run.outlined (dispose : Run σ Unit) : Run σ Unit := fun s =>
  let r := dispose s
  ⟨r.outcome, .backend .dispose :: r.events.filter (!·.isDisposal), r.session⟩

def Backend.outlined (b : Backend σ) : Backend σ := { b with dispose := b.dispose.outlined }

/-- The disposal of a backend whose every answer comes from outside is seen anyway. -/
theorem BackendResponder.outlined_eq (r : BackendResponder σ) : r.backend.outlined = r.backend := by
  have same : r.backend.dispose.outlined = r.backend.dispose := by
    funext s
    have seen : (r.backend.dispose s).events = [.backend .dispose] := ask_events _ _ s
    have left : (r.backend.dispose.outlined s).events = (r.backend.dispose s).events := by
      simp only [Run.outlined, seen]
      rfl
    have whole : r.backend.dispose.outlined s = ⟨(r.backend.dispose s).outcome,
      (r.backend.dispose.outlined s).events, (r.backend.dispose s).session⟩ := rfl
    rw [whole, left]
  exact congrArg (fun d => { r.backend with dispose := d }) same

theorem Backend.Guides.outlined {b : Backend σ} {R : Session σ → List Event → Session σ → Prop}
    (guides : b.Guides R) : b.outlined.Guides R where
  watchQueues := guides.watchQueues
  queueStatus := guides.queueStatus
  activeQueues := guides.activeQueues
  workerIdentifiers := guides.workerIdentifiers
  workersProcessing := guides.workersProcessing

def Monitor.outlined (m : Monitor σ) : Monitor σ := { m with backend := m.backend.outlined }

def MonitorLoop.outlined (l : MonitorLoop σ) : MonitorLoop σ :=
  { l with monitor := l.monitor.outlined }

/-- A service that does what it does over a backend whose disposal is seen. -/
def Watcher.outlined (w : Watcher β) : Watcher β :=
  { w with
    backend := w.backend.outlined
    monitor := w.monitor.outlined
    loop := w.loop.outlined }

theorem Watcher.WorksWith.outlined {w : Watcher β} {b : Backend (Service β)}
    (works : w.WorksWith b) : w.outlined.WorksWith b.outlined where
  backend := congrArg Backend.outlined works.backend
  monitor := congrArg Backend.outlined works.monitor
  rests := works.rests
  loop := congrArg Monitor.outlined works.loop
  naps := works.naps

theorem Monitor.check_outlined (m : Monitor σ) (view : JobView) (o : CheckOptions σ) :
    m.outlined.check view o = m.check view o := by
  have reflects : Reflects id m.outlined m :=
    { logger := rfl, scope := rfl, read := fun _ => mirrors_id _, watch := fun _ => mirrors_id _,
      active := mirrors_id _, look := mirrors_id _, busy := fun _ => mirrors_id _,
      sleep := fun _ => mirrors_id _ }
  exact (reflects.check erases_id view rfl rfl fun _ => mirrors_id _).eq

theorem MonitorLoop.run_outlined (l : MonitorLoop σ) (limit : Nat) (view : JobView)
    (o : WatchOptions σ) : l.outlined.run limit view o = l.run limit view o := by
  have logger : l.outlined.logger = l.logger := rfl
  have check : Mirrors id (l.outlined.monitor.check view (checkOptions o))
      (l.monitor.check view (checkOptions o)) := by
    rw [show l.outlined.monitor = l.monitor.outlined from rfl, Monitor.check_outlined]
    exact mirrors_id _
  have rest : Mirrors id (l.outlined.rest o) (l.rest o) := mirrors_id _
  exact (mirrors_run erases_id logger check rest limit).eq

/-! ## Requests -/

/-- Who is told of the readings in a run of checks: nobody, someone outside, or a file. -/
inductive Reporter (β : Type) where
  | nobody
  | outside (respond : StatusMap → Responder β Unit)
  | file (name : String)

def Reporter.report : Reporter β → StatusMap → Run (Service β) Unit
  | nobody, _ => pure ()
  | outside respond, m => ask (.record m) (BackendResponder.behind (respond m))
  | file name, m => Report.record name m

/-- What may be asked of a service. -/
inductive Request (β : Type) where
  | checkStatus (job : Subject) (o : Watcher.Options)
  | monitorUntilIdle (limit : Nat) (job : Subject) (o : Watcher.Options) (reporter : Reporter β)
  | queryStatus (job : Subject) (steps : List String)
  | activeQueues (queues : List String)
  | workers (queues : List String)
  | queryWorkers (query : WorkerQuery)
  | shutdown

def Request.isShutdown : Request β → Bool
  | shutdown => true
  | _ => false

/-- A request, made at some time by someone with a signal, or without one. -/
structure Visit (β : Type) where
  now : Nat
  signal : Signal
  alarms : List (Nat × Alarm)
  request : Request β

/-- The session in which a visit begins. -/
def Visit.begin (v : Visit β) (s : Session (Service β)) : Session (Service β) :=
  { s with now := v.now, signal := v.signal, alarms := v.alarms }

namespace Watcher

/-- Does what is asked. What it answers is left aside here. -/
def serve (w : Watcher β) : Request β → Run (Service β) Unit
  | .checkStatus job o => do
    let _ ← w.checkStatus job o
  | .monitorUntilIdle limit job o reporter => do
    let _ ← w.monitorUntilIdle limit job o reporter.report
  | .queryStatus job steps => do
    let _ ← w.queryStatus job steps
  | .activeQueues queues => do
    let _ ← w.activeQueues queues
  | .workers queues => do
    let _ ← w.workers queues
  | .queryWorkers query => do
    let _ ← w.queryWorkers query
  | .shutdown => w.shutdown

def take (w : Watcher β) (v : Visit β) (s : Session (Service β)) : Result (Service β) Unit :=
  w.serve v.request (v.begin s)

/-- The session after some visits, whatever each of them has come to. -/
def after (w : Watcher β) (s : Session (Service β)) : List (Visit β) → Session (Service β)
  | [] => s
  | v :: rest => w.after (w.take v s).session rest

/-- What a service parts with in some visits. -/
def partings (w : Watcher β) (s : Session (Service β)) : List (Visit β) → List Event
  | [] => []
  | v :: rest =>
    (w.outlined.take v s).events.filter Event.isParting ++ w.partings (w.take v s).session rest

theorem take_of_shutdown {w : Watcher β} {v : Visit β} {s : Session (Service β)}
    (ends : v.request.isShutdown = true) : w.take v s = w.shutdown (v.begin s) := by
  unfold take
  cases request : v.request with
  | shutdown => rfl
  | _ =>
    rw [request] at ends
    cases ends

theorem after_append (w : Watcher β) (s : Session (Service β)) (xs ys : List (Visit β)) :
    w.after s (xs ++ ys) = w.after (w.after s xs) ys := by
  induction xs generalizing s with
  | nil => rfl
  | cons v rest ih => exact ih _

theorem partings_append (w : Watcher β) (s : Session (Service β)) (xs ys : List (Visit β)) :
    w.partings s (xs ++ ys) = w.partings s xs ++ w.partings (w.after s xs) ys := by
  induction xs generalizing s with
  | nil => rfl
  | cons v rest ih =>
    rw [List.cons_append, partings, ih, partings, after, List.append_assoc]

theorem checkStatus_outlined (w : Watcher β) (job : Subject) (o : Options) :
    w.outlined.checkStatus job o = w.checkStatus job o := by
  simp only [checkStatus]
  rw [show w.outlined.monitor = w.monitor.outlined from rfl]
  simp only [Monitor.check_outlined]
  rfl

theorem monitorUntilIdle_outlined (w : Watcher β) (limit : Nat) (job : Subject) (o : Options)
    (report : StatusMap → Run (Service β) Unit) :
    w.outlined.monitorUntilIdle limit job o report = w.monitorUntilIdle limit job o report := by
  simp only [monitorUntilIdle]
  rw [show w.outlined.loop = w.loop.outlined from rfl]
  simp only [MonitorLoop.run_outlined]
  rfl

theorem serve_outlined (w : Watcher β) {r : Request β} (query : r.isShutdown = false) :
    w.outlined.serve r = w.serve r := by
  cases r with
  | shutdown => cases query
  | checkStatus job o => simp only [serve, checkStatus_outlined]
  | monitorUntilIdle limit job o reporter => simp only [serve, monitorUntilIdle_outlined]
  | queryStatus job steps => rfl
  | activeQueues queues => rfl
  | workers queues => rfl
  | queryWorkers query => rfl

/-! ## Services that are ready -/

/-- How a service comes to be, with the broker of the connection that it owns and the session in
which it is handed over: it is set up on a connection of its own, or put together over a backend
over queues or over one whose every answer comes from outside. -/
inductive Made : Watcher β → Option (Broker β) → Session (Service β) → Prop where
  | created {broker : Broker β} {c : Config} {start : Session (Service β)} {w : Watcher β}
      (live : start.outside.IsLive) (isOpen : start.outside.link.closed = false)
      (made : (create broker c start).outcome = .returned w) :
      Made w (some broker) (create broker c start).session
  | overQueues {b : QueueBackend β} {c : Config} {s : Session (Service β)} {w : Watcher β}
      (active : s.outside.shutDown = false) (made : withBackend b.backend c = .ok w) :
      Made w none s
  | overForeign {r : BackendResponder β} {c : Config} {s : Session (Service β)} {w : Watcher β}
      (active : s.outside.shutDown = false)
      (made : withBackend r.inService.backend c = .ok w) : Made w none s

/-- A service that has not been shut down, over a backend it may work with. -/
structure Ready (w : Watcher β) (s : Session (Service β)) : Prop where
  works : w.WorksWith w.backend
  behaves : w.backend.Behaves
  isOpen : w.connection ≠ none → s.outside.link.closed = false
  active : s.outside.shutDown = false

variable {w : Watcher β} {owner : Option (Broker β)} {s : Session (Service β)}

theorem worksWith_of_withBackend {b : Backend (Service β)} {c : Config}
    (made : withBackend b c = .ok w) : w.WorksWith b ∧ w.connection = none := by
  cases heard : Log.Logger.create c.logging with
  | error f =>
    rw [withBackend, heard] at made
    cases made
  | ok logger =>
    rw [withBackend, heard] at made
    exact worksWith_of_assemble made

/-- Over a backend that somebody else owns there is no connection to be closed. -/
theorem ready_of_withBackend {b : Backend (Service β)} {c : Config} (behaves : b.Behaves)
    (active : s.outside.shutDown = false) (made : withBackend b c = .ok w) :
    w.Ready s ∧ w.connection.map (·.broker) = none := by
  obtain ⟨works, none⟩ := worksWith_of_withBackend made
  obtain rfl := works.backend
  exact ⟨⟨works, behaves, fun owned => absurd none owned, active⟩, by rw [none]; rfl⟩

theorem Made.ready (made : Made w owner s) :
    w.Ready s ∧ w.connection.map (·.broker) = owner := by
  cases made with
  | created live isOpen made =>
    obtain ⟨b, manager, parts⟩ := isOver_of_create made
    obtain ⟨works, connection, _, closes⟩ := parts
    have same := works.backend
    rw [← same] at works
    refine ⟨⟨works, same ▸ b.behaves, fun _ => create_leaves_open isOpen made, ?_⟩, ?_⟩
    · exact (keeps_create_live _ _ [] _ live).active
    · rw [connection, Option.map_some, closes]
  | overQueues active made => exact ready_of_withBackend (QueueBackend.behaves _) active made
  | overForeign active made => exact ready_of_withBackend (BackendResponder.behaves _) active made

/-! ## Before the first shutdown -/

theorem spares_report (reporter : Reporter β) (m : StatusMap) :
    Spans (Spares Event.isParting) (reporter.report m) := by
  cases reporter with
  | nobody => exact composes_without_parting.pure ()
  | outside respond => exact spares_behind rfl _
  | file name =>
    refine composes_without_parting.bind (fun s => composes_without_parting.still s) fun here => ?_
    cases Report.recordIn name here.now m here.files with
    | ok files => exact fun s => ⟨List.forall_mem_nil _, rfl, rfl⟩
    | error f => exact composes_without_parting.fail _

/-- No query parts with anything. -/
theorem spares_serve {b : Backend (Service β)} (works : w.WorksWith b)
    (guides : b.Guides (Spares Event.isParting)) {r : Request β} (query : r.isShutdown = false) :
    Spans (Spares Event.isParting) (w.serve r) := by
  have composes : Composes (Spares (β := β) Event.isParting) := composes_without_parting
  have pauses (ms : Binary64) : Spans (Spares (β := β) Event.isParting) (pause ms) :=
    spares_pause (fun _ => rfl) (fun _ => rfl) ms
  have aside {α : Type} {x : Run (Service β) α} (h : Spans (Spares Event.isParting) x) :
      Spans (Spares Event.isParting) (do let _ ← x) := composes.bind h fun _ => composes.pure ()
  cases r with
  | checkStatus job o => exact aside (spans_checkStatus composes guides works pauses job o)
  | monitorUntilIdle limit job o reporter =>
    exact aside (spans_monitorUntilIdle composes guides works pauses limit job o
      (spares_report reporter))
  | queryStatus job steps => exact aside (spans_queryStatus composes guides works job steps)
  | activeQueues queues => exact aside (spans_activeQueues composes guides works queues)
  | workers queues => exact aside (spans_workers composes guides works queues)
  | queryWorkers q => exact aside (spans_queryWorkers composes guides works q)
  | shutdown => cases query

/-- A query leaves the service ready, and nothing is parted with. -/
theorem Ready.query (ready : w.Ready s) {v : Visit β} (query : v.request.isShutdown = false) :
    (w.outlined.take v s).events.filter Event.isParting = [] ∧ w.Ready (w.take v s).session := by
  have spares : Spans (Spares Event.isParting) (w.outlined.serve v.request) :=
    spares_serve ready.works.outlined ready.behaves.uses.outlined query
  obtain ⟨others, closed, shutDown⟩ := spares (v.begin s)
  have same : (w.take v s).session = (w.outlined.serve v.request (v.begin s)).session := by
    rw [serve_outlined w query]
    rfl
  refine ⟨List.filter_eq_nil_iff.mpr fun e listed => by simp [others e listed], ?_⟩
  rw [same]
  exact ⟨ready.works, ready.behaves, fun owned => closed.trans (ready.isOpen owned),
    shutDown.trans ready.active⟩

theorem Ready.queries (ready : w.Ready s) {visits : List (Visit β)}
    (queries : ∀ v ∈ visits, v.request.isShutdown = false) :
    w.partings s visits = [] ∧ w.Ready (w.after s visits) := by
  induction visits generalizing s with
  | nil => exact ⟨rfl, ready⟩
  | cons v rest ih =>
    obtain ⟨none, still⟩ := ready.query (queries v List.mem_cons_self)
    obtain ⟨none', later⟩ := ih still fun v' listed => queries v' (List.mem_cons_of_mem _ listed)
    rw [partings, none, none']
    exact ⟨rfl, later⟩

/-! ## The first shutdown -/

/-- The goodbye to the client of a connection, as its broker takes it. -/
def goodbyes (owner : Option (Broker β)) (w : β) : List Event :=
  match owner with
  | none => []
  | some broker => (broker.farewell w).map .broker

theorem filter_isGoodbye (events : List Event) : events.filter Event.isGoodbye =
    ((brokerCalls events).filter BrokerCall.isFarewell).map .broker := by
  induction events with
  | nil => rfl
  | cons e rest ih =>
    cases e with
    | broker call =>
      rw [brokerCalls_broker]
      cases farewell : call.isFarewell with
      | true => simp [Event.isGoodbye, farewell, ih]
      | false => simp [Event.isGoodbye, farewell, ih]
    | _ => exact ih

theorem filter_of_lines {lines : List Event} (lined : ∀ e ∈ lines, e.isLine = true) :
    lines.filter Event.isParting = [] := by
  refine List.filter_eq_nil_iff.mpr fun e listed => ?_
  cases e with
  | console => exact Bool.false_ne_true
  | _ => cases lined _ listed

/-- Where nothing is disposed of, only goodbyes are partings. -/
theorem filter_of_undisposed {events : List Event} (none : ∀ e ∈ events, e.isDisposal = false) :
    events.filter Event.isParting = events.filter Event.isGoodbye := by
  refine List.filter_congr fun e listed => ?_
  rw [Event.isParting, none e listed, Bool.false_or]

theorem closeConnection_undisposed (w : Watcher β) :
    Spans (OfKind fun e => e.isDisposal = false) w.closeConnection := by
  have composes : Composes (OfKind (σ := Service β) fun e => e.isDisposal = false) :=
    composes_kind fun _ _ _ => rfl
  unfold closeConnection
  cases w.connection with
  | none => exact composes.pure ()
  | some manager =>
    have quit : Spans (OfKind fun e => e.isDisposal = false) (call .quit manager.broker.quit) := by
      intro s
      rw [call_events]
      exact List.forall_mem_singleton.mpr rfl
    exact manager.spans_close composes quit (fun _ => List.forall_mem_singleton.mpr rfl)
      fun _ => List.forall_mem_nil _

theorem keeps_closeConnection_shutDown (w : Watcher β) :
    Keeps (Always fun o => o.shutDown = true) w.closeConnection := by
  unfold closeConnection
  cases w.connection with
  | none => exact quiet_pure () _
  | some manager =>
    exact manager.keeps_close (keeps_call fun _ _ shut => shut) (fun _ _ shut => shut)
      fun _ _ shut => shut

/-- With an open connection, the goodbye to its client is all that is parted with. -/
theorem closeConnection_partings (isOpen : w.connection ≠ none → s.outside.link.closed = false) :
    (w.closeConnection s).events.filter Event.isParting =
      goodbyes (w.connection.map (·.broker)) s.outside.broker := by
  rw [filter_of_undisposed (w.closeConnection_undisposed s), filter_isGoodbye]
  unfold closeConnection
  cases owned : w.connection with
  | none => rfl
  | some manager =>
    obtain ⟨_, calls⟩ := Connection.Manager.close_run (m := manager)
      (isOpen (owned ▸ Option.some_ne_none _))
    have all : (manager.broker.farewell s.outside.broker).filter BrokerCall.isFarewell =
        manager.broker.farewell s.outside.broker := by
      unfold Broker.farewell
      split <;> rfl
    dsimp only
    rw [calls, all]
    rfl

/-- A first shutdown parts with the backend and then with the client, and comes to what the
disposal comes to. -/
theorem Ready.shutdown (ready : w.Ready s) :
    let disposed := w.backend.dispose (ending s)
    (w.shutdown s).outcome = disposed.outcome ∧
      (w.outlined.shutdown s).events.filter Event.isParting = .backend .dispose ::
        goodbyes (w.connection.map (·.broker)) disposed.session.outside.broker ∧
      (w.shutdown s).session.outside.shutDown = true := by
  intro disposed
  have ends := ready.behaves.ends (ending s)
  have spares := ready.behaves.disposal (ending s)
  refine ⟨?_, ?_, ?_⟩
  · obtain ⟨_, _, _, _, ran⟩ := w.shutdown_of_active ready.active ends
    rw [ran]
  · obtain ⟨before, after, lined, lined', ran⟩ := w.outlined.shutdown_of_active ready.active ends
    have disposal : (w.outlined.backend.dispose (ending s)).events.filter Event.isParting =
        [.backend .dispose] := by
      refine congrArg (_ :: ·) (List.filter_eq_nil_iff.mpr fun e listed => ?_)
      obtain ⟨listed, kept⟩ := List.mem_filter.mp listed
      have undisposed : e.isDisposal = false := by simpa using kept
      simp [Event.isParting, undisposed, spares.others e listed]
    rw [ran]
    simp only [List.filter_append]
    rw [filter_of_lines lined, filter_of_lines lined', disposal, List.append_nil, List.nil_append]
    refine congrArg (_ :: ·) (closeConnection_partings (w := w.outlined) fun owned => ?_)
    exact spares.closed.trans (ready.isOpen owned)
  · obtain ⟨_, _, _, _, ran⟩ := w.shutdown_of_active ready.active ends
    rw [ran]
    exact w.keeps_closeConnection_shutDown [] _ spares.shutDown

/-- To make the disposal visible changes neither what a request comes to nor what it leaves. -/
theorem Ready.take_outlined (ready : w.Ready s) (v : Visit β) :
    (w.outlined.take v s).outcome = (w.take v s).outcome ∧
      (w.outlined.take v s).session = (w.take v s).session := by
  cases shutdown : v.request.isShutdown with
  | false =>
    unfold take
    rw [serve_outlined w shutdown]
    exact ⟨rfl, rfl⟩
  | true =>
    have active : (v.begin s).outside.shutDown = false := ready.active
    have ends := ready.behaves.ends (ending (v.begin s))
    obtain ⟨_, _, _, _, plain⟩ := w.shutdown_of_active active ends
    obtain ⟨_, _, _, _, outlined⟩ := w.outlined.shutdown_of_active active ends
    rw [take_of_shutdown shutdown, take_of_shutdown shutdown, plain, outlined]
    exact ⟨rfl, rfl⟩

/-! ## After it -/

/-- From now on every query is refused at once, and a shutdown only says that it is late. -/
def IsDone (w : Watcher β) (s : Session (Service β)) : Prop :=
  ∀ v : Visit β,
    (v.request.isShutdown = false →
      w.take v s = ⟨.threw (.failure (.plain "QueueWatch has been shut down")), [], v.begin s⟩) ∧
    (v.request.isShutdown = true →
      ∃ lines, (∀ e ∈ lines, e.isLine = true) ∧ w.take v s = ⟨.returned (), lines, v.begin s⟩)

theorem isDone_of_shutDown (w : Watcher β) (shut : s.outside.shutDown = true) : w.IsDone s := by
  intro v
  have shut' : (v.begin s).outside.shutDown = true := shut
  have refused {α : Type} (f : Unit → Run (Service β) α) :
      (do let _ ← requireActive >>= f : Run (Service β) Unit) (v.begin s) =
        ⟨.threw (.failure (.plain "QueueWatch has been shut down")), [], v.begin s⟩ := by
    rw [requireActive, bind_assoc, bind_assoc, isShutDown_bind, if_pos shut']
    rfl
  refine ⟨fun query => ?_, fun last => ?_⟩
  · unfold take
    cases request : v.request with
    | shutdown =>
      rw [request] at query
      cases query
    | _ => exact refused _
  · rw [take_of_shutdown last]
    exact w.shutdown_of_shutDown shut'

theorem IsDone.take (done : w.IsDone s) (v : Visit β) :
    (w.take v s).events.filter Event.isParting = [] ∧ (w.take v s).session = v.begin s := by
  obtain ⟨query, last⟩ := done v
  cases shutdown : v.request.isShutdown with
  | false =>
    rw [query shutdown]
    exact ⟨rfl, rfl⟩
  | true =>
    obtain ⟨lines, lined, told⟩ := last shutdown
    rw [told]
    exact ⟨filter_of_lines lined, rfl⟩

/-- A service that has been shut down stays so and parts with nothing any more. -/
theorem after_of_shutDown (shut : s.outside.shutDown = true) (visits : List (Visit β)) :
    w.partings s visits = [] ∧ (w.after s visits).outside.shutDown = true := by
  induction visits generalizing s with
  | nil => exact ⟨rfl, shut⟩
  | cons v rest ih =>
    obtain ⟨none, _⟩ := (w.outlined.isDone_of_shutDown shut).take v
    obtain ⟨_, session⟩ := (w.isDone_of_shutDown shut).take v
    obtain ⟨none', still⟩ := ih (s := (w.take v s).session) (by rw [session]; exact shut)
    rw [partings, none, none']
    exact ⟨rfl, still⟩

/-! ## From the first request to the last -/

/-- What becomes of a service that is asked for some things and then shut down for the first
time, however often and for whatever it is asked later. -/
theorem Ready.first_shutdown (ready : w.Ready s) {before : List (Visit β)}
    (queries : ∀ v ∈ before, v.request.isShutdown = false) {first : Visit β}
    (ends : first.request.isShutdown = true) (later : List (Visit β)) :
    let disposed := w.backend.dispose (ending (first.begin (w.after s before)))
    (w.take first (w.after s before)).outcome = disposed.outcome ∧
      w.partings s (before ++ first :: later) = .backend .dispose ::
        goodbyes (w.connection.map (·.broker)) disposed.session.outside.broker ∧
      (w.after s (before ++ first :: later)).outside.shutDown = true := by
  intro disposed
  obtain ⟨none, still⟩ := ready.queries queries
  have begun : w.Ready (first.begin (w.after s before)) :=
    ⟨still.works, still.behaves, still.isOpen, still.active⟩
  obtain ⟨outcome, partings, shut⟩ := begun.shutdown
  rw [← take_of_shutdown ends] at outcome partings shut
  obtain ⟨none', shut'⟩ := after_of_shutDown (w := w) shut later
  rw [partings_append, after_append, none, Watcher.partings, partings, none', List.append_nil]
  exact ⟨outcome, rfl, shut'⟩

theorem goodbyes_count (owner : Option (Broker β)) (o : β) :
    (goodbyes owner o).countP Event.isDisposal = 0 ∧
      (goodbyes owner o).countP Event.isQuit = owner.toList.length := by
  cases owner with
  | none => exact ⟨rfl, rfl⟩
  | some broker =>
    simp only [goodbyes, Broker.farewell]
    split <;> exact ⟨rfl, rfl⟩

/-- A service parts with nothing before its first shutdown. That shutdown comes to what the
disposal of the backend comes to, and even if the disposal fails it is followed by the goodbye to
the client, if the service owns one. From the beginning of the disposal on the service is done,
and it parts with nothing any more. So in no course of requests is the backend disposed of more
than once, or a client told to quit more than once, and none that the service does not own. -/
theorem parts_at_first_shutdown (made : Made w owner s) :
    (∀ visits, (w.partings s visits).countP Event.isDisposal ≤ 1 ∧
        (w.partings s visits).countP Event.isQuit ≤ owner.toList.length) ∧
      ∀ before, (∀ v ∈ before, v.request.isShutdown = false) →
        w.partings s before = [] ∧
          ∀ first, first.request.isShutdown = true →
            let begun := ending (first.begin (w.after s before))
            let disposed := w.backend.dispose begun
            (w.take first (w.after s before)).outcome = disposed.outcome ∧ w.IsDone begun ∧
              ∀ later,
                w.partings s (before ++ first :: later) =
                    .backend .dispose :: goodbyes owner disposed.session.outside.broker ∧
                  w.IsDone (w.after s (before ++ first :: later)) := by
  obtain ⟨ready, rfl⟩ := made.ready
  refine ⟨fun visits => ?_, fun before queries => ⟨(ready.queries queries).1, ?_⟩⟩
  · cases found : visits.find? (·.request.isShutdown) with
    | none =>
      have queries : ∀ v ∈ visits, v.request.isShutdown = false := fun v listed =>
        Bool.eq_false_iff.mpr (List.find?_eq_none.mp found v listed)
      rw [(ready.queries queries).1]
      exact ⟨Nat.zero_le _, Nat.zero_le _⟩
    | some first =>
      obtain ⟨ends, before, later, rfl, queries⟩ := List.find?_eq_some_iff_append.mp found
      obtain ⟨_, partings, _⟩ := ready.first_shutdown
        (fun v listed => by simpa using queries v listed) ends later
      obtain ⟨disposals, quits⟩ := goodbyes_count (w.connection.map (·.broker))
        (w.backend.dispose (ending (first.begin (w.after s before)))).session.outside.broker
      rw [partings, List.countP_cons, List.countP_cons, disposals, quits]
      exact ⟨Nat.le_refl _, Nat.le_refl _⟩
  · intro first ends begun disposed
    refine ⟨(ready.first_shutdown queries ends []).1, w.isDone_of_shutDown rfl, fun later => ?_⟩
    obtain ⟨_, partings, shut⟩ := ready.first_shutdown queries ends later
    exact ⟨partings, w.isDone_of_shutDown shut⟩

/-- The one handle cannot be closed, and neither can the client say goodbye. -/
theorem parts_with_clinging_handle :
    let boom : Thrown := .failure (.plain "boom")
    let c : Config :=
      { connection := some (.address "redis://r:6379")
        backend := { queues := ["a"] }
        logging := { enabled := false } }
    let start : Session (Service Play) := Session.start 0 (Service.start Link.waiting
      { queues := [("a", { closing := [.error boom] })], quit := [.error boom] })
    let s := (create Play.broker c start).session
    let look : Visit Play := ⟨0, .absent, [], .workers ["b"]⟩
    let stop : Visit Play := ⟨0, .absent, [], .shutdown⟩
    ∃ w, (create Play.broker c start).outcome = .returned w ∧
      (w.take stop (w.after s [look])).outcome.thrown?.map Thrown.message = some "boom" ∧
      w.partings s [look, stop, look, stop] =
        [.backend .dispose, .broker .quit, .broker .disconnect] := by
  intro boom c start s look stop
  have created : (create Play.broker c start).outcome.returned?.isSome = true := by decide +kernel
  obtain ⟨w, came⟩ := Option.isSome_iff_exists.mp created
  have made : (create Play.broker c start).outcome = .returned w :=
    Outcome.returned?_eq_some.mp came
  obtain ⟨_, course⟩ := parts_at_first_shutdown (Made.created ⟨rfl, rfl⟩ rfl made)
  obtain ⟨_, first⟩ := course [look] (by simp [look, Request.isShutdown])
  obtain ⟨outcome, _, later⟩ := first stop rfl
  obtain ⟨partings, _⟩ := later [look, stop]
  refine ⟨w, made, ?_, partings.trans (congrArg (_ :: ·) ?_)⟩
  · have message : (create Play.broker c start).outcome.returned?.bind (fun w =>
        (w.backend.dispose (ending (stop.begin (w.after s [look])))).outcome.thrown?.map
          Thrown.message) = some "boom" := by
      decide +kernel
    rw [came] at message
    exact (congrArg (fun o => o.thrown?.map Thrown.message) outcome).trans message
  · have refused : (create Play.broker c start).outcome.returned?.map (fun w =>
        Play.broker.farewell (w.backend.dispose (ending (stop.begin
          (w.after s [look])))).session.outside.broker) = some [.quit, .disconnect] := by
      decide +kernel
    rw [came] at refused
    exact congrArg (List.map Event.broker) (Option.some.inj refused)

end Watcher

end JobWatch
