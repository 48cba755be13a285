import JobWatch.Connection.Manager
import JobWatch.Proofs.Broker.Trail
import JobWatch.Proofs.Run.Spans

/-!
# Testing and closing a connection

The calls by which a connection is tested and closed, and what testing and closing it keep. Closing
never fails: a client that cannot say goodbye is cut off.
-/

namespace JobWatch

variable {β α : Type}

/-- The calls by which a connection is tested. -/
def Link.greeting (l : Link) : List BrokerCall :=
  if l.status = Link.waiting then [.connect, .ping] else [.ping]

/-- The calls by which a connection is closed. -/
def Broker.farewell (b : Broker β) (w : β) : List BrokerCall :=
  if b.passes w .quit then [.quit] else [.quit, .disconnect]

/-- A goodbye is said, or the client is cut off without one. -/
def BrokerCall.isFarewell : BrokerCall → Bool
  | .quit => true
  | .disconnect => true
  | _ => false

/-- The call neither makes a client nor gives anything back. -/
def BrokerCall.isWork : BrokerCall → Bool
  | .construct _ => false
  | .quit => false
  | .disconnect => false
  | .close _ => false
  | _ => true

theorem BrokerCall.isFarewell_of_isWork {call : BrokerCall} (work : call.isWork = true) :
    call.isFarewell = false := by
  cases call <;> first | rfl | cases work

theorem Link.greeting_isWork (l : Link) : ∀ call ∈ l.greeting, call.isWork = true := by
  unfold greeting
  split <;> simp [BrokerCall.isWork]

namespace Connection.Manager

open Run

variable {I : List BrokerCall → Service β → Prop}

theorem link_bind (f : Link → Run (Service β) α) (s : Session (Service β)) :
    (link >>= f) s = f s.outside.link s := rfl

theorem modifyLink_bind (f : Link → Link) (g : Unit → Run (Service β) α)
    (s : Session (Service β)) :
    (modifyLink f >>= g) s =
      g () { s with outside := { s.outside with link := f s.outside.link } } := rfl

theorem quiet_link : Quiet (link : Run (Service β) Link) :=
  quiet_outside.bind fun _ => quiet_pure _

theorem keeps_modifyLink {f : Link → Link}
    (same : ∀ past w, I past w → I past { w with link := f w.link }) : Keeps I (modifyLink f) := by
  intro past s holds
  exact (List.append_nil past).symm ▸ same past s.outside holds

/-! ## Testing -/

/-- The round trip by which a connection is tested. -/
def greet (m : Manager β) : Run (Service β) Unit := do
  m.connectIfWaiting
  call .ping m.broker.ping

/-- What a test fails with if its round trip has failed. -/
def unreachable (t : Thrown) : Thrown :=
  .failure (.connection "Failed to connect to Redis" t.failure?)

/-- What is made of the round trip. -/
def judge (m : Manager β) : Except Thrown Unit → Run (Service β) Unit
  | .ok _ => m.logger.info "Redis connection test successful"
  | .error t => do
    m.logger.error "Redis connection test failed:" [.thrown t]
    throw (unreachable t)

theorem test_eq (m : Manager β) : m.test = (do m.judge (← m.greet.attempt)) := by
  refine congrArg (m.greet.attempt >>= ·) (funext fun result => ?_)
  cases result <;> rfl

theorem quiet_judge (m : Manager β) (result : Except Thrown Unit) : Quiet (m.judge result) := by
  cases result with
  | ok a => exact quiet_log
  | error t => exact quiet_log.bind fun _ => quiet_throw _

theorem judge_error (m : Manager β) (t : Thrown) (s : Session (Service β)) :
    (m.judge (.error t) s).outcome = .threw (unreachable t) := by
  have logged : (m.logger.error "Redis connection test failed:" [.thrown t] s).outcome =
      .returned () := log_returned s
  exact (congrArg Result.outcome (bind_returned logged)).trans rfl

theorem follows_greet (m : Manager β) (s : Session (Service β)) :
    Follows m.broker s.outside.link.greeting m.greet s := by
  by_cases waiting : s.outside.link.status = Link.waiting
  · have connected : Follows m.broker ([.connect] ++ []) m.connectIfWaiting s := by
      refine Follows.of_eq (x := do
        call .connect m.broker.connect
        modifyLink fun l => { l with status := Link.ready }) ?_ ?_ rfl
      · exact (follows_call rfl).bind fun _ _ => follows_nothing rfl rfl rfl
      · rw [connectIfWaiting, link_bind, if_pos waiting]
    rw [Link.greeting, if_pos waiting]
    exact connected.bind fun _ _ => follows_call rfl
  · have connected : Follows m.broker [] m.connectIfWaiting s := by
      have same : m.connectIfWaiting s = ⟨.returned (), [], s⟩ := by
        rw [connectIfWaiting, link_bind, if_neg waiting]
        rfl
      exact follows_nothing (by rw [same]) (by rw [same]; rfl) (by rw [same])
    rw [Link.greeting, if_neg waiting]
    exact connected.bind fun _ _ => follows_call rfl

/-- A connection is tested by the calls of the greeting, up to the first that fails. -/
theorem follows_test (m : Manager β) (s : Session (Service β)) :
    Follows m.broker s.outside.link.greeting m.test s := by
  rw [test_eq]
  exact (m.follows_greet s).recast m.quiet_judge (fun _ s => ⟨(), log_returned s⟩)
    fun t s => ⟨_, m.judge_error t s⟩

theorem keeps_test (m : Manager β) (connect : Keeps I (call .connect m.broker.connect))
    (ping : Keeps I (call .ping m.broker.ping))
    (relink : ∀ past w, I past w →
      I past { w with link := { w.link with status := Link.ready } }) : Keeps I m.test := by
  have first : Keeps I m.connectIfWaiting := by
    refine (quiet_link I).bind fun l => ?_
    by_cases waiting : l.status = Link.waiting
    · simp only [if_pos waiting]
      exact connect.bind fun _ => keeps_modifyLink relink
    · simp only [if_neg waiting]
      exact quiet_pure () I
  rw [test_eq]
  exact (first.bind fun _ => ping).attempt.bind fun result => m.quiet_judge result I

/-! ## Closing -/

section Closing

variable {R : Session (Service β) → List Event → Session (Service β) → Prop}

theorem spans_close (m : Manager β) (composes : Composes R)
    (quit : Spans R (call .quit m.broker.quit)) (disconnect : Spans R (emit (.broker .disconnect)))
    (retire : ∀ s : Session (Service β), R s [] { s with
      outside := { s.outside with link := { s.outside.link with closed := true } } }) :
    Spans R m.close := by
  refine composes.bind (composes.bind composes.outside fun _ => composes.pure _) fun l => ?_
  by_cases closed : l.closed = true
  · simp only [if_pos closed]
    exact composes.pure ()
  · simp only [if_neg closed]
    have retired : Spans R (modifyLink fun l => { l with closed := true }) := retire
    refine composes.bind retired fun _ => composes.bind quit.attempt fun result => ?_
    cases result with
    | ok a => exact composes.log _ _ _ _
    | error t => exact composes.bind (composes.log _ _ _ _) fun _ => disconnect

end Closing

theorem keeps_close (m : Manager β) (quit : Keeps I (call .quit m.broker.quit))
    (disconnect : Keeps I (emit (.broker .disconnect)))
    (relink : ∀ past w, I past w →
      I past { w with link := { w.link with closed := true } }) : Keeps I m.close := by
  refine keeps_iff_spans.mpr (m.spans_close (composes_upheld I) (keeps_iff_spans.mp quit)
    (keeps_iff_spans.mp disconnect) fun s past holds => ?_)
  rw [brokerCalls_nil, List.append_nil]
  exact relink past s.outside holds

theorem close_of_closed {m : Manager β} {s : Session (Service β)}
    (closed : s.outside.link.closed = true) : m.close s = ⟨.returned (), [], s⟩ := by
  rw [close, link_bind, if_pos closed]
  rfl

/-- A connection that is open is closed by the calls of the farewell. -/
theorem close_run {m : Manager β} {s : Session (Service β)}
    (isOpen : s.outside.link.closed = false) :
    (m.close s).outcome = .returned () ∧
      brokerCalls (m.close s).events = m.broker.farewell s.outside.broker := by
  let retired : Session (Service β) :=
    { s with outside := { s.outside with link := { s.outside.link with closed := true } } }
  let saying : Run (Service β) Unit := call .quit m.broker.quit
  have asked : (saying.attempt retired).outcome =
      .returned (m.broker.quit s.outside.broker).1.outcome :=
    attempt_call_outcome .quit m.broker.quit retired
  have said : brokerCalls (saying.attempt retired).events = [.quit] := by
    rw [attempt_events, call_events]
    rfl
  have passes : m.broker.passes s.outside.broker .quit =
      (m.broker.quit s.outside.broker).1.outcome.isOk := rfl
  rw [close, link_bind, if_neg (by simp [isOpen]), modifyLink_bind, bind_returned asked,
    Broker.farewell, passes]
  cases (m.broker.quit s.outside.broker).1.outcome with
  | ok a =>
    have quiet : Quiet (m.logger.info "Redis connection closed" : Run (Service β) Unit) := quiet_log
    refine ⟨log_returned _, ?_⟩
    rw [brokerCalls_append, said]
    exact congrArg ([.quit] ++ ·) (quiet.calls _)
  | error t =>
    obtain ⟨lines, lined, told⟩ := log_bind m.logger .warn "Redis quit failed, disconnecting:"
      [.thrown t] (fun _ => emit (.broker .disconnect)) (saying.attempt retired).session
    dsimp only
    rw [Log.Logger.warn, told, brokerCalls_append, brokerCalls_append, brokerCalls_of_lines lined,
      said]
    exact ⟨rfl, rfl⟩

/-- Whatever the broker says to the goodbye, a connection is closed without a failure. -/
theorem close_returned (m : Manager β) (s : Session (Service β)) :
    (m.close s).outcome = .returned () := by
  cases closed : s.outside.link.closed with
  | true => rw [close_of_closed closed]
  | false => exact (close_run closed).1

end Connection.Manager

end JobWatch
