import JobWatch.Proofs.Broker.Handles
import JobWatch.Proofs.Watcher.Upkeep
import JobWatch.Script

/-!
# What setting up a service leaves open

A service that cannot be set up closes its connection, but none of the handles that were opened on
the way. The main statement says for which configurations and brokers there are such handles, and
that all of them are left open. What becomes of a handle when the connection under it is closed is
the broker's business and not spoken of here.
-/

namespace JobWatch

variable {β α : Type}

namespace QueueBackend

open Run

/-- No use of a backend closes a handle. -/
theorem moves_without_closes (b : QueueBackend β) :
    b.Moves (Only fun c => ∀ queue, c ≠ .close queue) :=
  b.moves_of_calls (fun _ respond other => keeps_only_call other respond)
    fun _ _ _ _ only => only

/-- The handle of the first queue configured is opened before anything else is done. -/
theorem begins_select {broker : Broker β} {c : Config} {logger : Log.Logger}
    {s : Session (Service β)} {queue : String} {rest : List String}
    (known : Connection.filled c.type Backend.typeName = Backend.typeName)
    (queues : c.queues = queue :: rest) :
    Begins broker [.openHandle queue (some (Connection.filled c.keyPrefix defaultKeyPrefix))]
      (select broker c logger) s := by
  let new : QueueBackend β := ⟨broker, logger.child "Backend",
    some (Connection.filled c.keyPrefix defaultKeyPrefix)⟩
  let empty : Session (Service β) :=
    { s with outside := { s.outside with pool := Pool.new c.threshold c.timeoutMs } }
  have watched : Begins broker [.openHandle queue new.keyPrefix] (new.watch c.queues) empty := by
    have held : Begins new.broker [.openHandle queue new.keyPrefix] (new.hold queue) empty :=
      (follows_hold List.not_mem_nil).begins
    refine (held.bind (f := fun _ => new.holdAll rest)).of_eq ?_ rfl
    rw [queues, watch_of_used rfl, holdAll]
  have selected : select broker c logger s = (do new.watch c.queues; return new) empty := by
    rw [select, if_pos known]
    exact modifyPool_bind _ _ s
  exact (watched.bind (f := fun _ => pure new)).of_eq selected rfl

end QueueBackend

namespace Watcher

open Run

/-- The calls by which a connection is made and tested. -/
def approach (target : Connection.Config) (l : Link) : List BrokerCall :=
  .construct target.options :: l.greeting

theorem approach_not_isOfHandles (target : Connection.Config) (l : Link) :
    ∀ call ∈ approach target l, call.isOfHandles = false := by
  intro call listed
  rw [approach, Link.greeting] at listed
  by_cases waiting : l.status = Link.waiting
  · rw [if_pos waiting] at listed
    simp only [List.mem_cons, List.not_mem_nil, or_false] at listed
    rcases listed with rfl | rfl | rfl <;> rfl
  · rw [if_neg waiting] at listed
    simp only [List.mem_cons, List.not_mem_nil, or_false] at listed
    rcases listed with rfl | rfl <;> rfl

/-- The call by which a configured queue's handle is opened. -/
def Config.opening (c : Config) (queue : String) : BrokerCall :=
  .openHandle queue
    (some (Connection.filled c.backend.keyPrefix QueueBackend.defaultKeyPrefix))

/-- The calls on the way to the first handle, if the configuration asks for a handle and nothing
on this side is in the way. -/
def Config.wayToHandle? (c : Config) (l : Link) : Option (List BrokerCall) :=
  match c.target?, Log.Logger.create c.logging, c.backend.queues with
  | some target, .ok _, queue :: _ =>
    if Connection.filled c.backend.type Backend.typeName = Backend.typeName then
      some (approach target l ++ [c.opening queue])
    else none
  | _, _, _ => none

variable {broker : Broker β} {c : Config} {logger : Log.Logger} {s : Session (Service β)}

/-- What is made of the building of a service: if it has failed, the connection is closed. -/
def conclude (manager : Connection.Manager β) :
    Except Thrown (Watcher β) → Run (Service β) (Watcher β)
  | .ok watcher => pure watcher
  | .error t => do
    manager.close
    throw t

theorem conclude_calls (manager : Connection.Manager β) (result : Except Thrown (Watcher β))
    (s : Session (Service β)) :
    ∀ call ∈ brokerCalls (conclude manager result s).events, call.isOfHandles = false := by
  have closing : Keeps (Only fun call => call.isOfHandles = false) manager.close :=
    manager.keeps_close (keeps_only_call (by rfl) _) (keeps_only_emit (by rfl))
      fun _ _ only => only
  refine Keeps.calls_of_only ?_ s
  cases result with
  | ok watcher => exact quiet_pure watcher _
  | error t => exact closing.bind fun _ => quiet_throw t _

/-- A service without an address or a logger makes no calls. Otherwise its client is constructed
before it is built, and closed after it at most. -/
theorem create_calls (broker : Broker β) (c : Config) (s : Session (Service β)) :
    (brokerCalls (create broker c s).events = [] ∧ c.wayToHandle? s.outside.link = none) ∨
      ∃ target logger farewell, c.target? = some target ∧
        Log.Logger.create c.logging = .ok logger ∧
        (∀ call ∈ farewell, call.isOfHandles = false) ∧
        brokerCalls (create broker c s).events = .construct target.options ::
          (brokerCalls (build broker c logger ⟨broker, logger.child "Redis"⟩ s).events ++
            farewell) := by
  cases given : c.target? with
  | none =>
    refine Or.inl ⟨?_, ?_⟩
    · rw [create, given]
      rfl
    · rw [Config.wayToHandle?, given]
  | some target =>
    cases heard : Log.Logger.create c.logging with
    | error f =>
      refine Or.inl ⟨?_, ?_⟩
      · rw [create, given]
        simp only [heard, require_error_bind]
        rfl
      · rw [Config.wayToHandle?, given, heard]
    | ok logger =>
      -- the building is attempted, so what is concluded from it comes after all of its calls
      let manager : Connection.Manager β := ⟨broker, logger.child "Redis"⟩
      let building := (build broker c logger manager).attempt
      have created : brokerCalls (create broker c s).events =
          .construct target.options :: brokerCalls ((building >>= conclude manager) s).events := by
        rw [create, given]
        simp only [heard, require_ok_bind]
        rfl
      refine Or.inr ⟨target, logger, ?_⟩
      rcases bind_calls building (conclude manager) s with same | ⟨result, s', more⟩
      · refine ⟨[], rfl, rfl, fun _ listed => absurd listed List.not_mem_nil, ?_⟩
        rw [created, same, attempt_events, List.append_nil]
      · refine ⟨_, rfl, rfl, conclude_calls manager result s', ?_⟩
        rw [created, more, attempt_events]

theorem create_without_closes (broker : Broker β) (c : Config) (s : Session (Service β)) :
    ∀ queue, .close queue ∉ brokerCalls (create broker c s).events := by
  have kept : Keeps (Only fun call => ∀ queue, call ≠ .close queue) (create broker c) := by
    refine keeps_create (fun _ => keeps_only_emit fun _ => nofun) (fun m => ?_)
      (fun logger => ?_) fun m => ?_
    · exact m.keeps_test (keeps_only_call (fun _ => nofun) _)
        (keeps_only_call (fun _ => nofun) _) fun _ _ only => only
    · exact QueueBackend.keeps_select (fun _ _ _ _ only => only)
        (fun b => b.moves_without_closes.watch _) broker logger
    · exact m.keeps_close (keeps_only_call (fun _ => nofun) _)
        (keeps_only_emit fun _ => nofun) fun _ _ only => only
  intro queue listed
  exact kept.calls_of_only s _ listed queue rfl

/-- Nothing is opened if there is no way to a first handle. -/
theorem create_without_way (broker : Broker β) (noWay : c.wayToHandle? s.outside.link = none) :
    ∀ call ∈ brokerCalls (create broker c s).events, call.isOfHandles = false := by
  intro call listed
  rcases create_calls broker c s with
    ⟨none, _⟩ | ⟨target, logger, farewell, given, heard, others, calls⟩
  · rw [none] at listed
    cases listed
  · have selected : Keeps (Only fun call => call.isOfHandles = false)
        (QueueBackend.select broker c.backend logger) := by
      cases queues : c.backend.queues with
      | nil =>
        refine QueueBackend.keeps_select (fun _ _ _ _ only => only) (fun b => ?_) broker logger
        rw [queues]
        exact b.quiet_watch_nil _
      | cons queue rest =>
        have unknown : Connection.filled c.backend.type Backend.typeName ≠ Backend.typeName := by
          intro known
          rw [Config.wayToHandle?, given, heard, queues] at noWay
          simp only [if_pos known] at noWay
          cases noWay
        rw [QueueBackend.select]
        simp only [if_neg unknown]
        exact quiet_fail _ _
    have tested : Keeps (Only fun call => call.isOfHandles = false)
        (Connection.Manager.mk broker (logger.child "Redis")).test :=
      Connection.Manager.keeps_test _ (keeps_only_call (by rfl) _) (keeps_only_call (by rfl) _)
        fun _ _ only => only
    rw [calls, List.mem_cons, List.mem_append] at listed
    rcases listed with rfl | made | last
    · rfl
    · exact (keeps_build tested selected).calls_of_only s _ made
    · exact others _ last

/-- The way to the first handle is gone once the client has been constructed. -/
theorem begins_build {queue : String} {rest : List String}
    (known : Connection.filled c.backend.type Backend.typeName = Backend.typeName)
    (queues : c.backend.queues = queue :: rest) (logger logger' : Log.Logger) :
    Begins broker (s.outside.link.greeting ++ [c.opening queue])
      (build broker c logger ⟨broker, logger'⟩) s :=
  (Connection.Manager.follows_test ⟨broker, logger'⟩ s).bind_begins fun _ _ =>
    (QueueBackend.begins_select known queues).bind

/-- What is known of a configuration with a way to a handle. -/
theorem wayToHandle?_eq_some {l : Link} {way : List BrokerCall}
    (there : c.wayToHandle? l = some way) :
    ∃ target queue rest, c.target? = some target ∧
      Connection.filled c.backend.type Backend.typeName = Backend.typeName ∧
      c.backend.queues = queue :: rest ∧ way = approach target l ++ [c.opening queue] := by
  unfold Config.wayToHandle? at there
  split at there
  · next target logger queue rest given heard queues =>
    split at there
    · next known => exact ⟨target, queue, rest, given, known, queues, (Option.some.inj there).symm⟩
    · cases there
  · cases there

/-- The way to the first handle is gone as far as the broker lets it; if that is not all of it, no
handle has anything to do with the calls after it. -/
theorem create_along_way (broker : Broker β) {way : List BrokerCall}
    (there : c.wayToHandle? s.outside.link = some way) :
    ∃ later, brokerCalls (create broker c s).events =
        broker.upToFailure s.outside.broker way ++ later ∧
      (broker.allPass s.outside.broker way = false →
        ∀ call ∈ later, call.isOfHandles = false) := by
  obtain ⟨target, queue, rest, given, known, queues, rfl⟩ := wayToHandle?_eq_some there
  rcases create_calls broker c s with
    ⟨_, none⟩ | ⟨target', logger, farewell, given', _, others, calls⟩
  · cases there.symm.trans none
  · obtain rfl : target' = target := Option.some.inj (given'.symm.trans given)
    have begins : Begins broker (s.outside.link.greeting ++ [c.opening queue])
        (build broker c logger ⟨broker, logger.child "Redis"⟩) s :=
      begins_build known queues logger _
    -- constructing the client is no question to the broker
    have constructed : broker.upToFailure s.outside.broker
          (approach target' s.outside.link ++ [c.opening queue]) =
        .construct target'.options ::
          broker.upToFailure s.outside.broker (s.outside.link.greeting ++ [c.opening queue]) := rfl
    rw [calls, constructed]
    cases pass : broker.allPass s.outside.broker
        (s.outside.link.greeting ++ [c.opening queue]) with
    | true =>
      obtain ⟨later, made⟩ := begins.goes pass
      refine ⟨later ++ farewell, ?_, fun stopped => Bool.noConfusion (pass.symm.trans stopped)⟩
      rw [made, Broker.upToFailure_of_allPass pass, List.append_assoc, List.cons_append]
    | false =>
      refine ⟨farewell, ?_, fun _ => others⟩
      rw [(begins.stops pass).1, List.cons_append]

/-- Handles are opened exactly if there is a way to the first of them and all of it goes through. -/
theorem handles_create_eq_nil_iff (broker : Broker β) (c : Config) (s : Session (Service β)) :
    broker.handles s.outside.broker (brokerCalls (create broker c s).events) = [] ↔
      ¬ ∃ way, c.wayToHandle? s.outside.link = some way ∧
        broker.allPass s.outside.broker way = true := by
  cases there : c.wayToHandle? s.outside.link with
  | none =>
    refine iff_of_true ?_ fun ⟨_, way, _⟩ => nomatch way
    exact Broker.handles_of_others (create_without_way broker there)
  | some way =>
    obtain ⟨later, calls, others⟩ := create_along_way broker there
    obtain ⟨target, queue, _, _, _, _, rfl⟩ := wayToHandle?_eq_some there
    let way := approach target s.outside.link ++ [c.opening queue]
    have ledger : broker.handles s.outside.broker (broker.upToFailure s.outside.broker way) =
        if broker.allPass s.outside.broker way then [⟨queue, 0⟩] else [] :=
      Broker.handles_upToFailure (approach_not_isOfHandles target s.outside.link)
    rw [calls]
    cases pass : broker.allPass s.outside.broker way with
    | true =>
      rw [if_pos pass] at ledger
      refine iff_of_false (Broker.handles_append_ne_nil later ?_) fun no => no ⟨_, rfl, pass⟩
      rw [ledger]
      exact List.cons_ne_nil _ _
    | false =>
      rw [if_neg (by simp [pass])] at ledger
      refine iff_of_true ?_ ?_
      · rw [Broker.handles_append_of_others (others pass)]
        exact ledger
      · rintro ⟨_, ⟨⟩, pass'⟩
        cases pass.symm.trans pass'

/-- Whether or not a service can be set up, no handle is closed in setting it up. So all handles
opened in it have been closed by its end exactly if there are none; and that is so exactly if
the configuration does not lead to a handle, or the broker turns down one of the calls on the way
to the first one. -/
theorem create_closes_all_iff (broker : Broker β) (c : Config) (s : Session (Service β)) :
    let ledger := broker.handles s.outside.broker (brokerCalls (create broker c s).events)
    (∀ h ∈ ledger, h.closes = 0) ∧
      ((∀ h ∈ ledger, h.closes ≠ 0) ↔
        ¬ ∃ way, c.wayToHandle? s.outside.link = some way ∧
          broker.allPass s.outside.broker way = true) := by
  intro ledger
  have open' : ∀ h ∈ ledger, h.closes = 0 :=
    Broker.closes_of_never_closed (create_without_closes broker c s)
  refine ⟨open', Iff.trans ?_ (handles_create_eq_nil_iff broker c s)⟩
  constructor
  · intro closed
    refine List.eq_nil_iff_forall_not_mem.mpr fun h listed => ?_
    exact closed h listed (open' h listed)
  · intro none h listed
    have listed' : h ∈ ([] : List Handle) := none ▸ listed
    cases listed'

/-- The number of seconds to sleep is refused when the handle of the one queue configured is open
already. The connection is closed, and the handle is not. -/
theorem handle_left_open_by_failed_create :
    let c : Config :=
      { connection := some (.address "redis://r:6379")
        backend := { queues := ["a"] }
        sleepSeconds := some (.ofDecimal true 1 0)
        logging := { enabled := false } }
    let s : Session (Service Play) := Session.start 0 (Service.start Link.waiting {})
    let calls := brokerCalls (create Play.broker c s).events
    (create Play.broker c s).outcome.thrown?.map Thrown.message =
        some "Invalid configuration: monitor.sleepSeconds must be a non-negative number, got -1" ∧
      calls.drop 1 = [.connect, .ping, .openHandle "a" (some "bull"), .quit] ∧
      Play.broker.handles s.outside.broker calls = [⟨"a", 0⟩] := by
  decide +kernel

end Watcher

end JobWatch
