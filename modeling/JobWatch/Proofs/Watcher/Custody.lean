import JobWatch.Proofs.Backend.Outages
import JobWatch.Proofs.Watcher.Creation

/-!
# Who has the connection while a service is set up

Setting up a service constructs a client, tests the connection, opens handles and puts the service
together. The connection belongs to whoever is setting up until the service is there, and to the
service from then on. The main statement says what becomes of it whatever fails in which stage:
it is handed over open, or it is closed once and the first failure is passed on. What becomes of
the handles is not said here.
-/

namespace JobWatch

variable {β α γ : Type}

namespace Run

/-- A run makes some calls up to the first that does not go through, comes to the fault if there
is one, and leaves the connection open or closed as it was. -/
structure Course (b : Broker β) (calls : List BrokerCall) (fault : Option Thrown)
    (x : Run (Service β) α) (s : Session (Service β)) : Prop where
  made : brokerCalls (x s).events = b.upToFailure s.outside.broker calls
  broker : (x s).session.outside.broker =
    b.after s.outside.broker (b.upToFailure s.outside.broker calls)
  closed : (x s).session.outside.link.closed = s.outside.link.closed
  returns : fault = none → ∃ a, (x s).outcome = .returned a
  throws : ∀ t, fault = some t → (x s).outcome = .threw t

section

variable {b : Broker β} {xs ys : List BrokerCall} {fault : Option Thrown} {t : Thrown}
  {x : Run (Service β) α} {f : α → Run (Service β) γ} {s : Session (Service β)}

theorem Course.of_eq {y : Run (Service β) α} {s' : Session (Service β)}
    (hx : Course b xs fault x s) (same : y s' = x s)
    (broker : s'.outside.broker = s.outside.broker)
    (closed : s'.outside.link.closed = s.outside.link.closed) : Course b xs fault y s' := by
  obtain ⟨made, broker', closed', returns, throws⟩ := hx
  rw [← same, ← broker] at made broker'
  rw [← same, ← closed] at closed'
  rw [← same] at returns throws
  exact ⟨made, broker', closed', returns, throws⟩

/-- Calls that are not reached do not matter. -/
theorem Course.extend (hx : Course b xs fault x s)
    (stopped : b.allPass s.outside.broker xs = false) : Course b (xs ++ ys) fault x s := by
  have same : b.upToFailure s.outside.broker (xs ++ ys) = b.upToFailure s.outside.broker xs := by
    rw [Broker.upToFailure_append, if_neg (by simp [stopped])]
  exact ⟨by rw [same, hx.made], by rw [same, hx.broker], hx.closed, hx.returns, hx.throws⟩

theorem Course.bind_of_fault (hx : Course b xs (some t) x s) :
    Course b xs (some t) (x >>= f) s := by
  have came := bind_threw (f := f) (hx.throws t rfl)
  refine ⟨?_, ?_, ?_, nofun, ?_⟩
  · rw [came, hx.made]
  · rw [came, hx.broker]
  · rw [came, hx.closed]
  · intro t' same
    rw [came, Option.some.inj same]

theorem Course.bind (hx : Course b xs none x s) (pass : b.allPass s.outside.broker xs = true)
    (hf : ∀ a, (x s).outcome = .returned a → Course b ys fault (f a) (x s).session) :
    Course b (xs ++ ys) fault (x >>= f) s := by
  obtain ⟨a, came⟩ := hx.returns rfl
  obtain ⟨made, broker, closed, returns, throws⟩ := hf a came
  rw [hx.broker, Broker.upToFailure_of_allPass pass] at made broker
  have all : b.upToFailure s.outside.broker (xs ++ ys) =
      xs ++ b.upToFailure (b.after s.outside.broker xs) ys := by
    rw [Broker.upToFailure_append, if_pos pass]
  refine ⟨?_, ?_, ?_, ?_, ?_⟩ <;> rw [bind_returned came]
  · rw [brokerCalls_append, hx.made, made, all, Broker.upToFailure_of_allPass pass]
  · rw [all, broker, Broker.after_append]
  · exact closed.trans hx.closed
  · exact returns
  · exact throws

/-- A quiet run goes along no calls. -/
theorem Quiet.course (quiet : Quiet x) (returns : fault = none → ∃ a, (x s).outcome = .returned a)
    (throws : ∀ t, fault = some t → (x s).outcome = .threw t) : Course b [] fault x s :=
  ⟨quiet.calls s, congrArg Service.broker (quiet.outside s),
    congrArg (fun w => w.link.closed) (quiet.outside s), returns, throws⟩

/-- What a run keeps of the connection. -/
def ClosedIs (closed : Bool) (_ : List BrokerCall) (w : Service β) : Prop := w.link.closed = closed

theorem Follows.course (follows : Follows b xs x s) (stops : StopsAtFault b x s)
    (keeps : Keeps (ClosedIs s.outside.link.closed) x) :
    Course b xs (b.firstFault? s.outside.broker xs) x s :=
  ⟨follows.made, follows.broker, keeps [] s rfl, (follows.outcome stops).1,
    (follows.outcome stops).2⟩

end

end Run

/-! ## The stages -/

namespace Connection.Manager

open Run

theorem stopsAtFault_greet (m : Manager β) (s : Session (Service β)) :
    StopsAtFault m.broker m.greet s := by
  have linked (f : Link → Link) (s : Session (Service β)) :
      StopsAtFault m.broker (modifyLink f) s := stopsAtFault_silent rfl rfl rfl rfl
  have connected : StopsAtFault m.broker m.connectIfWaiting s := by
    by_cases waiting : s.outside.link.status = Link.waiting
    · have connects : StopsAtFault m.broker (do
          call .connect m.broker.connect
          modifyLink fun l => { l with status := Link.ready }) s :=
        (stopsAtFault_call (fun _ => rfl) fun _ => rfl).bind fun _ _ => linked _ _
      exact connects.of_eq (by rw [connectIfWaiting, link_bind, if_pos waiting])
    · exact (stopsAtFault_pure ()).of_eq (by rw [connectIfWaiting, link_bind, if_neg waiting])
  exact connected.bind fun _ _ => stopsAtFault_call (fun _ => rfl) fun _ => rfl

theorem keeps_test_closed (m : Manager β) (closed : Bool) : Keeps (ClosedIs closed) m.test :=
  m.keeps_test (keeps_call fun _ _ same => same) (keeps_call fun _ _ same => same)
    fun _ _ same => same

/-- A test fails with what has become of the first call of the greeting to fail. -/
theorem test_course (m : Manager β) (s : Session (Service β)) :
    Course m.broker s.outside.link.greeting
      ((m.broker.firstFault? s.outside.broker s.outside.link.greeting).map unreachable)
      m.test s := by
  obtain ⟨made, broker, returns, _⟩ := m.follows_test s
  obtain ⟨_, threw⟩ := (m.follows_greet s).outcome (m.stopsAtFault_greet s)
  refine ⟨made, broker, m.keeps_test_closed _ [] s rfl, fun none => returns ?_, fun t same => ?_⟩
  · rw [Broker.allPass_eq_isNone_firstFault?, Option.map_eq_none_iff.mp none]
    rfl
  · obtain ⟨t', first, rfl⟩ := Option.map_eq_some_iff.mp same
    rw [test_eq, bind_returned (attempt_threw (threw t' first))]
    exact m.judge_error t' _

end Connection.Manager

namespace QueueBackend

open Run

/-- A backend that is set up holds each of the queues configured once. -/
theorem select_course {broker : Broker β} {c : Config} {logger : Log.Logger}
    {s : Session (Service β)} {openings : List BrokerCall}
    (known : Connection.filled c.type Backend.typeName = Backend.typeName)
    (all : openings = (distinct c.queues).map fun queue =>
      .openHandle queue (some (Connection.filled c.keyPrefix defaultKeyPrefix))) :
    Course broker openings (broker.firstFault? s.outside.broker openings)
      (select broker c logger) s := by
  let new : QueueBackend β := ⟨broker, logger.child "Backend",
    some (Connection.filled c.keyPrefix defaultKeyPrefix)⟩
  let empty : Session (Service β) :=
    { s with outside := { s.outside with pool := Pool.new c.threshold c.timeoutMs } }
  have unheld : unheld [] c.queues = distinct c.queues := (foldl_remember_eq [] c.queues).symm
  have held : Follows broker openings (new.holdAll c.queues) empty := by
    rw [all, ← unheld]
    exact new.follows_holdAll c.queues empty
  have follows : Follows broker (openings ++ []) (do new.holdAll c.queues; return new) empty :=
    held.bind fun _ _ => follows_nothing rfl rfl rfl
  rw [List.append_nil] at follows
  have stops : StopsAtFault broker (do new.holdAll c.queues; return new) empty :=
    (new.stopsAtFault_holdAll c.queues).bind fun _ _ => stopsAtFault_pure new
  have moves : new.Moves (ClosedIs s.outside.link.closed) :=
    new.moves_of_calls (fun _ _ _ => keeps_call fun _ _ same => same) fun _ _ _ _ same => same
  have keeps : Keeps (ClosedIs s.outside.link.closed) (do new.holdAll c.queues; return new) :=
    (moves.holdAll c.queues).bind fun _ => quiet_pure new _
  refine (follows.course stops keeps).of_eq ?_ rfl rfl
  rw [select, if_pos known]
  exact (modifyPool_bind _ _ s).trans (bind_of_eq (watch_of_used rfl c.queues) _)

end QueueBackend

namespace Watcher

open Run

/-- The calls by which the handles of a service's backend are opened. -/
def Config.openings (c : Config) : List BrokerCall :=
  if Connection.filled c.backend.type Backend.typeName = Backend.typeName then
    (distinct c.backend.queues).map c.opening
  else []

/-- What the making of the backend fails with, if it fails. -/
def Config.backendFault? (c : Config) (b : Broker β) (w : β) : Option Thrown :=
  let type := Connection.filled c.backend.type Backend.typeName
  if type = Backend.typeName then b.firstFault? w c.openings
  else some (.failure (.unsupportedBackend type))

/-- What the making of the monitor fails with, if it fails. -/
def Config.monitorFault? (c : Config) : Option Failure :=
  match Delay.validate (c.sleepSeconds.getD defaultSleepSeconds) "monitor.sleepSeconds" with
  | .error f => some f
  | .ok _ =>
    match JobsScope.ofName c.jobsScope with
    | .error f => some f
    | .ok _ => none

/-- What the first stage to fail fails with: the test of the connection, the making of the backend,
or that of the monitor. -/
def Config.setupFault? (c : Config) (b : Broker β) (w : Service β) : Option Thrown :=
  ((b.firstFault? w.broker w.link.greeting).map Connection.Manager.unreachable).or
    ((c.backendFault? b (b.after w.broker w.link.greeting)).or (c.monitorFault?.map .failure))

theorem openings_isWork (c : Config) : ∀ call ∈ c.openings, call.isWork = true := by
  unfold Config.openings
  split
  · intro call listed
    obtain ⟨queue, -, rfl⟩ := List.mem_map.mp listed
    rfl
  · exact List.forall_mem_nil _

variable {broker : Broker β} {c : Config} {logger : Log.Logger} {s : Session (Service β)}

/-- Whether a service can be put together is a matter of its configuration alone. -/
theorem assemble_eq (backend : Backend (Service β)) (c : Config) (logger : Log.Logger)
    (connection : Option (Connection.Manager β)) :
    (c.monitorFault? = none → ∃ w, assemble backend c logger connection = .ok w) ∧
      ∀ f, c.monitorFault? = some f → assemble backend c logger connection = .error f := by
  unfold Config.monitorFault?
  dsimp only [assemble, Monitor.create]
  cases Delay.validate (c.sleepSeconds.getD defaultSleepSeconds) "monitor.sleepSeconds" with
  | error f => exact ⟨nofun, fun _ same => Option.some.inj same ▸ rfl⟩
  | ok _ =>
    cases JobsScope.ofName c.jobsScope with
    | error f => exact ⟨nofun, fun _ same => Option.some.inj same ▸ rfl⟩
    | ok scope => exact ⟨fun _ => ⟨_, rfl⟩, nofun⟩

/-- What comes of a backend that has been made. -/
def finish (c : Config) (logger : Log.Logger) (manager : Connection.Manager β)
    (queues : QueueBackend β) : Run (Service β) (Watcher β) := do
  let watcher ← Run.require (assemble queues.backend c logger (some manager))
  logger.info ("QueueWatch initialized with " ++ Backend.typeName ++ " backend")
  return watcher

theorem finish_course (b : Broker β) (manager : Connection.Manager β) (queues : QueueBackend β)
    (s : Session (Service β)) :
    Course b [] (c.monitorFault?.map .failure) (finish c logger manager queues) s := by
  have quiet : Quiet (finish c logger manager queues) :=
    (quiet_require _).bind fun _ => quiet_log.bind fun _ => quiet_pure _
  obtain ⟨made, refused⟩ := assemble_eq queues.backend c logger (some manager)
  refine quiet.course (fun none => ?_) fun t same => ?_
  · obtain ⟨w, made⟩ := made (Option.map_eq_none_iff.mp none)
    obtain ⟨lines, -, told⟩ := log_bind logger .info
      ("QueueWatch initialized with " ++ Backend.typeName ++ " backend") []
      (fun _ => (pure w : Run (Service β) (Watcher β))) s
    refine ⟨w, ?_⟩
    rw [finish, made, require_ok_bind, Log.Logger.info, told, pure_apply]
  · obtain ⟨f, fault, rfl⟩ := Option.map_eq_some_iff.mp same
    rw [finish, refused f fault, require_error_bind]

theorem select_finish_course (manager : Connection.Manager β) (s : Session (Service β)) :
    Course manager.broker c.openings
      ((c.backendFault? manager.broker s.outside.broker).or (c.monitorFault?.map .failure)) (do
        finish c logger manager (← QueueBackend.select manager.broker c.backend logger)) s := by
  rw [Config.backendFault?]
  by_cases known : Connection.filled c.backend.type Backend.typeName = Backend.typeName
  · have openings : c.openings = (distinct c.backend.queues).map c.opening := if_pos known
    have selected : Course manager.broker c.openings _
        (QueueBackend.select manager.broker c.backend logger) s :=
      QueueBackend.select_course known openings
    have pass := manager.broker.allPass_eq_isNone_firstFault? s.outside.broker c.openings
    simp only [if_pos known]
    cases opened : manager.broker.firstFault? s.outside.broker c.openings with
    | some t =>
      rw [opened] at selected
      exact selected.bind_of_fault
    | none =>
      rw [opened] at selected pass
      have all : Course manager.broker (c.openings ++ []) _ (do
          finish c logger manager (← QueueBackend.select manager.broker c.backend logger)) s :=
        selected.bind pass fun queues _ => finish_course manager.broker manager queues _
      rw [List.append_nil] at all
      exact all
  · have openings : c.openings = [] := if_neg known
    have refused : Course manager.broker []
        (some (.failure (.unsupportedBackend
          (Connection.filled c.backend.type Backend.typeName))))
        (QueueBackend.select manager.broker c.backend logger) s := by
      rw [QueueBackend.select]
      simp only [if_neg known]
      exact (quiet_fail _).course (fun none => absurd none (Option.some_ne_none _))
        fun t same => Option.some.inj same ▸ rfl
    rw [openings]
    simp only [if_neg known]
    exact refused.bind_of_fault

theorem build_course (manager : Connection.Manager β) (s : Session (Service β)) :
    Course manager.broker (s.outside.link.greeting ++ c.openings)
      (c.setupFault? manager.broker s.outside) (build manager.broker c logger manager) s := by
  have tested := manager.test_course s
  have pass := manager.broker.allPass_eq_isNone_firstFault? s.outside.broker
    s.outside.link.greeting
  have built : build manager.broker c logger manager = (do
      manager.test
      finish c logger manager (← QueueBackend.select manager.broker c.backend logger)) := rfl
  rw [built, Config.setupFault?]
  cases greeted : manager.broker.firstFault? s.outside.broker s.outside.link.greeting with
  | some t =>
    rw [greeted] at tested pass
    exact tested.bind_of_fault.extend pass
  | none =>
    rw [greeted] at tested pass
    refine tested.bind pass fun _ _ => ?_
    have here : (manager.test s).session.outside.broker =
        manager.broker.after s.outside.broker s.outside.link.greeting := by
      rw [tested.broker, Broker.upToFailure_of_allPass pass]
    rw [Option.map_none, Option.none_or, ← here]
    exact select_finish_course manager _

/-! ## Handing over or closing -/

/-- The calls on the way to a service, as far as the broker lets them go. -/
def Config.setup (c : Config) (b : Broker β) (target : Connection.Config) (w : Service β) :
    List BrokerCall :=
  .construct target.options :: b.upToFailure w.broker (w.link.greeting ++ c.openings)

theorem setup_isWork (c : Config) (b : Broker β) (w : Service β) :
    ∀ call ∈ b.upToFailure w.broker (w.link.greeting ++ c.openings), call.isWork = true := by
  intro call listed
  rcases List.mem_append.mp (Broker.mem_of_mem_upToFailure listed) with greeting | opening
  · exact w.link.greeting_isWork call greeting
  · exact openings_isWork c call opening

theorem setup_not_isFarewell (c : Config) (b : Broker β) (target : Connection.Config)
    (w : Service β) : ∀ call ∈ c.setup b target w, call.isFarewell = false := by
  intro call listed
  rcases List.mem_cons.mp listed with rfl | listed
  · rfl
  · exact BrokerCall.isFarewell_of_isWork (setup_isWork c b w call listed)

/-- Once there is a client, the rest of the setting up is attempted, and what is concluded from it
comes after all of its calls. -/
theorem create_apply {target : Connection.Config} (given : c.target? = some target)
    (heard : Log.Logger.create c.logging = .ok logger) (broker : Broker β)
    (s : Session (Service β)) :
    let manager : Connection.Manager β := ⟨broker, logger.child "Redis"⟩
    let r := (do conclude manager (← (build broker c logger manager).attempt)) s
    create broker c s =
      ⟨r.outcome, .broker (.construct target.options) :: r.events, r.session⟩ := by
  intro manager r
  rw [create, given]
  simp only [heard, require_ok_bind]
  rfl

/-- A service that can be set up has its connection as it was constructed. -/
theorem create_of_ready {target : Connection.Config} (given : c.target? = some target)
    (heard : Log.Logger.create c.logging = .ok logger)
    (ready : c.setupFault? broker s.outside = none) :
    (∃ w, (create broker c s).outcome = .returned w) ∧
      brokerCalls (create broker c s).events = c.setup broker target s.outside ∧
      (create broker c s).session.outside.link.closed = s.outside.link.closed := by
  let manager : Connection.Manager β := ⟨broker, logger.child "Redis"⟩
  have course : Course broker _ _ (build broker c logger manager) s := build_course manager s
  obtain ⟨w, came⟩ := course.returns ready
  have concluded : (do conclude manager (← (build broker c logger manager).attempt)) s =
      ⟨.returned w, (build broker c logger manager s).events,
        (build broker c logger manager s).session⟩ := by
    rw [bind_returned (attempt_returned came), attempt_events, attempt_session]
    exact congrArg (Result.mk _ · _) (List.append_nil _)
  rw [create_apply given heard, concluded]
  exact ⟨⟨w, rfl⟩, congrArg (_ :: ·) course.made, course.closed⟩

/-- A service that cannot be set up leaves its connection closed, and what has gone wrong is passed
on. -/
theorem create_of_fault {target : Connection.Config} (given : c.target? = some target)
    (heard : Log.Logger.create c.logging = .ok logger) {t : Thrown}
    (isOpen : s.outside.link.closed = false)
    (fault : c.setupFault? broker s.outside = some t) :
    (create broker c s).outcome = .threw t ∧
      brokerCalls (create broker c s).events = c.setup broker target s.outside ++
        broker.farewell (broker.after s.outside.broker (c.setup broker target s.outside)) := by
  let manager : Connection.Manager β := ⟨broker, logger.child "Redis"⟩
  have course : Course broker _ _ (build broker c logger manager) s := build_course manager s
  have came := course.throws t fault
  obtain ⟨closes, farewell⟩ := Connection.Manager.close_run (m := manager)
    (s := (build broker c logger manager s).session) (course.closed.trans isOpen)
  have concluded : (do conclude manager (← (build broker c logger manager).attempt)) s =
      ⟨.threw t, (build broker c logger manager s).events ++
          ((manager.close (build broker c logger manager s).session).events ++ []),
        (manager.close (build broker c logger manager s).session).session⟩ := by
    rw [bind_returned (attempt_threw came), attempt_events, attempt_session, conclude,
      bind_returned closes]
    rfl
  rw [create_apply given heard, concluded]
  refine ⟨rfl, ?_⟩
  rw [brokerCalls_broker, brokerCalls_append, List.append_nil, farewell, course.made,
    course.broker]
  rfl

/-- Setting up a service fails before there is a client, or it comes to a service on an open
connection, or its client is told farewell and what has failed is passed on. -/
theorem create_cases (broker : Broker β) (c : Config) {s : Session (Service β)}
    (isOpen : s.outside.link.closed = false) :
    let r := create broker c s
    (∃ t, r = ⟨.threw t, [], s⟩) ∨ ∃ target, let setup := c.setup broker target s.outside
      ((∃ w, r.outcome = .returned w) ∧ brokerCalls r.events = setup ∧
          r.session.outside.link.closed = false) ∨
        (∃ t, r.outcome = .threw t) ∧ brokerCalls r.events =
          setup ++ broker.farewell (broker.after s.outside.broker setup) := by
  intro r
  cases given : c.target? with
  | none =>
    refine Or.inl ⟨.failure (.configuration "redis configuration is required"), ?_⟩
    simp only [r, create, given]
    rfl
  | some target =>
    cases heard : Log.Logger.create c.logging with
    | error f =>
      refine Or.inl ⟨.failure f, ?_⟩
      simp only [r, create, given, heard, require_error_bind]
    | ok logger =>
      refine Or.inr ⟨target, ?_⟩
      cases fault : c.setupFault? broker s.outside with
      | none =>
        obtain ⟨returned, calls, closed⟩ := create_of_ready given heard fault
        exact Or.inl ⟨returned, calls, closed.trans isOpen⟩
      | some t =>
        obtain ⟨threw, calls⟩ := create_of_fault given heard isOpen fault
        exact Or.inr ⟨⟨t, threw⟩, calls⟩

/-- A service that has been set up has an open connection. -/
theorem create_leaves_open {w : Watcher β} (isOpen : s.outside.link.closed = false)
    (made : (create broker c s).outcome = .returned w) :
    (create broker c s).session.outside.link.closed = false := by
  rcases create_cases broker c isOpen with ⟨t, failed⟩ | ⟨_, ⟨_, _, stillOpen⟩ | ⟨⟨t, threw⟩, _⟩⟩
  · rw [failed] at made
    cases made
  · exact stillOpen
  · cases made.symm.trans threw

/-- Once its client has been constructed, a service is set up and has the connection, to which no
farewell has been said; or the first stage to fail has failed with what is passed on, and the
farewell to the connection is said after all other calls. -/
theorem connection_handed_over_or_closed (broker : Broker β) (c : Config)
    (s : Session (Service β)) (isOpen : s.outside.link.closed = false)
    (constructed : ∃ options, .construct options ∈ brokerCalls (create broker c s).events) :
    ∃ target, c.target? = some target ∧
      let r := create broker c s
      let setup := c.setup broker target s.outside
      (∀ call ∈ setup, call.isFarewell = false) ∧
        (c.setupFault? broker s.outside = none →
          (∃ w, r.outcome = .returned w) ∧ brokerCalls r.events = setup) ∧
        ∀ t, c.setupFault? broker s.outside = some t →
          r.outcome = .threw t ∧ brokerCalls r.events =
            setup ++ broker.farewell (broker.after s.outside.broker setup) := by
  rcases create_calls broker c s with ⟨none, _⟩ | ⟨target, logger, _, given, heard, _⟩
  · obtain ⟨options, listed⟩ := constructed
    rw [none] at listed
    cases listed
  · refine ⟨target, given, setup_not_isFarewell c broker target s.outside, ?_, ?_⟩
    · intro ready
      obtain ⟨returned, calls, _⟩ := create_of_ready given heard ready
      exact ⟨returned, calls⟩
    · exact fun t fault => create_of_fault given heard isOpen fault

/-- The number of seconds to sleep is refused when the client is there already, and the client
cannot say goodbye. -/
theorem connection_closed_of_failing_quit :
    let gone : Thrown := .failure (.plain "gone")
    let c : Config :=
      { connection := some (.address "redis://r:6379")
        backend := { queues := ["a"] }
        sleepSeconds := some (.ofDecimal true 1 0)
        logging := { enabled := false } }
    let s : Session (Service Play) := Session.start 0 (Service.start Link.waiting
      { quit := [.error gone] })
    let r := create Play.broker c s
    r.outcome.thrown?.map Thrown.message =
        some "Invalid configuration: monitor.sleepSeconds must be a non-negative number, got -1" ∧
      (brokerCalls r.events).drop 1 =
        [.connect, .ping, .openHandle "a" (some "bull"), .quit, .disconnect] := by
  intro gone c s r
  have constructed : .construct (Connection.Config.address "redis://r:6379").options ∈
      brokerCalls (create Play.broker c s).events := by
    decide +kernel
  obtain ⟨target, given, _, _, released⟩ :=
    connection_handed_over_or_closed Play.broker c s rfl ⟨_, constructed⟩
  obtain rfl : Connection.Config.address "redis://r:6379" = target := Option.some.inj given
  have message : (c.setupFault? Play.broker s.outside).map Thrown.message = some
      "Invalid configuration: monitor.sleepSeconds must be a non-negative number, got -1" := by
    decide +kernel
  obtain ⟨t, fault, told⟩ := Option.map_eq_some_iff.mp message
  obtain ⟨threw, calls⟩ := released t fault
  refine ⟨(congrArg (fun o => o.thrown?.map Thrown.message) threw).trans (congrArg some told), ?_⟩
  rw [show brokerCalls r.events = _ from calls]
  decide +kernel

end Watcher

end JobWatch
