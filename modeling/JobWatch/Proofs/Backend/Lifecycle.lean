import JobWatch.Proofs.Backend.Disposal

/-!
# The life of a backend's handles

A backend opens a handle only for a queue that has none, and closes each handle once, when it is
disposed of. Between its calls what it holds are the handles of the ledger that were never closed,
in the order in which they were opened; that goes on through calls that fail halfway and through
disposals that fail. Nothing is said about the time within a call, when a disposal has already
let go of handles that it has yet to close.
-/

namespace JobWatch

variable {β α : Type}

namespace Broker

/-- All that a trail has opened is accounted for: the ledger is tidy, what stands of it is what
the pool holds, and no handle was opened beside another that stood. -/
structure Accounts (b : Broker β) (start : β) (past : List BrokerCall) (w : Service β) :
    Prop where
  broker : w.broker = b.after start past
  tidy : Handle.Tidy (b.handles start past)
  held : w.pool.handles = Handle.standing (b.handles start past)
  sparing : ∀ before queue keyPrefix, before ++ [.openHandle queue keyPrefix] <+: past →
    queue ∉ Handle.standing (b.handles start before)

namespace Accounts

variable {b : Broker β} {start : β} {past : List BrokerCall} {w w' : Service β}

theorem nodup (accounts : b.Accounts start past w) : w.pool.handles.Nodup :=
  accounts.held ▸ accounts.tidy.nodup_standing

theorem mem_handles (accounts : b.Accounts start past w) {queue : String} :
    queue ∈ w.pool.handles ↔ queue ∈ Handle.standing (b.handles start past) := by
  rw [accounts.held]

/-- One more call leaves the accounts in order if it opens no second handle, and the pool takes
note of what it does to the ledger. -/
theorem call (accounts : b.Accounts start past w) {c : BrokerCall}
    (moved : w'.broker = b.next w.broker c)
    (spare : ∀ queue keyPrefix, c = .openHandle queue keyPrefix → queue ∉ w.pool.handles)
    (tidy : Handle.Tidy
      (Handle.enter (b.handles start past) ⟨c, b.passes w.broker c⟩))
    (held : w'.pool.handles = Handle.standing
      (Handle.enter (b.handles start past) ⟨c, b.passes w.broker c⟩)) :
    b.Accounts start (past ++ [c]) w' := by
  rw [accounts.broker] at moved tidy held
  refine ⟨?_, ?_, ?_, ?_⟩
  · rw [moved, after_append]
    rfl
  · rw [handles_concat]
    exact tidy
  · rw [handles_concat]
    exact held
  · intro before queue keyPrefix earlier
    rcases List.prefix_concat_iff.mp earlier with same | earlier
    · obtain ⟨rfl, opening⟩ := List.append_inj' same rfl
      rw [← accounts.mem_handles]
      exact spare queue keyPrefix (List.singleton_inj.mp opening).symm
    · exact accounts.sparing before queue keyPrefix earlier

/-- Every handle that a pool has let go of can be closed without upsetting the accounts. -/
theorem close_all (accounts : b.Accounts start past w) (queues : List String)
    (all : w.pool.handles = queues) :
    b.Accounts start (past ++ queues.map .close) { w with
      broker := b.after w.broker (queues.map .close)
      pool := { w.pool with handles := [] } } := by
  induction queues generalizing past w with
  | nil =>
    rw [List.map_nil, List.append_nil]
    exact ⟨accounts.broker, accounts.tidy, all ▸ accounts.held, accounts.sparing⟩
  | cons queue rest ih =>
    -- a disposal lets go of all handles at once; the accounts do so one by one, as each is closed
    have standing : Handle.standing (b.handles start past) = queue :: rest :=
      accounts.held.symm.trans all
    have first : queue ∈ Handle.standing (b.handles start past) := by simp [standing]
    obtain ⟨tidy, left⟩ := accounts.tidy.close first
    rw [standing, List.erase_cons_head] at left
    have closed : b.Accounts start (past ++ [.close queue]) { w with
        broker := b.next w.broker (.close queue)
        pool := { w.pool with handles := rest } } :=
      accounts.call rfl (fun _ _ other => nomatch other) tidy left.symm
    rw [List.map_cons, List.append_cons]
    exact ih closed rfl

end Accounts

end Broker

namespace QueueBackend

open Run

variable {b : QueueBackend β} {start : β}

/-- A call by which a queue is read is no matter for the accounts. -/
theorem accounts_reading (c : BrokerCall) {respond : Responder β α}
    (asks : ∀ w, b.broker.answer w c = Broker.told respond w)
    (other : c.isOfHandles = false) :
    Keeps (b.broker.Accounts start) (Run.call c respond) := by
  refine keeps_call fun past w accounts => accounts.call ?_ ?_ ?_ ?_
  · exact (congrArg Prod.snd (asks w.broker)).symm
  · rintro queue keyPrefix rfl
    cases other
  · rw [Handle.enter_of_not_isOfHandles other]
    exact accounts.tidy
  · rw [Handle.enter_of_not_isOfHandles other]
    exact accounts.held

theorem accounts_hold (queue : String) : Keeps (b.broker.Accounts start) (b.hold queue) := by
  intro past s accounts
  by_cases held : queue ∈ s.outside.pool.handles
  · rw [hold_of_held held, brokerCalls_nil, List.append_nil]
    exact accounts
  · rw [hold_calls held]
    have none := mt accounts.mem_handles.mpr held
    have spare : ∀ other keyPrefix, BrokerCall.openHandle queue b.keyPrefix =
        .openHandle other keyPrefix → other ∉ s.outside.pool.handles := by
      rintro other keyPrefix ⟨⟩
      exact held
    cases came : (b.broker.openHandle queue s.outside.broker).1.outcome with
    | ok opened =>
      have passes : b.broker.passes s.outside.broker (.openHandle queue b.keyPrefix) = true :=
        congrArg Except.isOk came
      rw [(hold_of_missing held came).2]
      refine accounts.call rfl spare ?_ ?_
      · rw [passes]
        exact accounts.tidy.open none
      · rw [passes]
        refine Eq.trans ?_ (Handle.standing_cons _ _).symm
        rw [if_pos rfl, ← accounts.held]
    | error t =>
      have fails : b.broker.passes s.outside.broker (.openHandle queue b.keyPrefix) = false :=
        congrArg Except.isOk came
      rw [(hold_of_failing held came).2.2]
      refine accounts.call rfl spare ?_ ?_
      · rw [fails]
        exact accounts.tidy
      · rw [fails]
        exact accounts.held

theorem accounts_moves : b.Moves (b.broker.Accounts start) where
  hold := accounts_hold
  jobCounts queue := accounts_reading (.jobCounts queue) (fun _ => rfl) rfl
  workers queue := accounts_reading (.workers queue) (fun _ => rfl) rfl
  activeCount queue := accounts_reading (.activeCount queue) (fun _ => rfl) rfl
  breaker _ _ _ accounts :=
    ⟨accounts.broker, accounts.tidy, accounts.held, accounts.sparing⟩

/-- A disposal leaves no handle open, whichever of them the broker refuses to close. -/
theorem accounts_dispose : Keeps (b.broker.Accounts start) b.dispose := by
  intro past s accounts
  cases used : s.outside.pool.disposed with
  | true =>
    rw [dispose_of_disposed used, brokerCalls_nil, List.append_nil]
    exact accounts
  | false =>
    obtain ⟨_, calls, left⟩ := dispose_run (b := b) used
    have closed := accounts.close_all s.outside.pool.handles rfl
    rw [calls, left]
    exact ⟨closed.broker, closed.tidy, closed.held, closed.sparing⟩

theorem accounts_perform (call : BackendCall) :
    Keeps (b.broker.Accounts start) (b.backend.perform call) :=
  accounts_moves.upholds.perform call fun _ => accounts_dispose

/-- The first handles are accounted for, whether or not the backend can be set up. -/
theorem accounts_create (broker : Broker β) (c : Config) (logger : Log.Logger) (own : Bool)
    (s : Session (Service β)) :
    broker.Accounts s.outside.broker (brokerCalls (create broker c logger own s).events)
      (create broker c logger own s).session.outside := by
  let new : QueueBackend β := ⟨broker, logger.child "Backend",
    if own then some (Connection.filled c.keyPrefix defaultKeyPrefix) else none⟩
  let empty : Session (Service β) :=
    { s with outside := { s.outside with pool := Pool.new c.threshold c.timeoutMs } }
  have unused : broker.Accounts s.outside.broker [] empty.outside :=
    ⟨rfl, Handle.tidy_nil, rfl,
      fun before _ _ none => absurd (List.prefix_nil.mp none) (List.append_ne_nil_of_right_ne_nil
        before (List.cons_ne_nil _ _))⟩
  have opened : Keeps (broker.Accounts s.outside.broker) (do new.watch c.queues; return new) :=
    (accounts_moves (b := new).watch c.queues).bind fun _ => quiet_pure new _
  exact opened [] empty unused

/-! ## What a reading asks -/

theorem follows_readWorkers (b : QueueBackend β) (m : ActiveQueues) (workers queues : List String)
    (s : Session (Service β)) :
    Follows b.broker (queues.map .workers) (b.readWorkers m workers queues) s := by
  induction queues generalizing m workers s with
  | nil => exact follows_nothing rfl rfl rfl
  | cons queue rest ih =>
    refine (follows_call (c := .workers queue) rfl).bind fun clients _ => ?_
    by_cases deserted : clients.isEmpty = true
    · simp only [if_pos deserted]
      exact ih m workers _
    · simp only [if_neg deserted]
      exact ih _ _ _

end QueueBackend

namespace Pool

/-- A round trip that wants to start now is let through. -/
def Admits (p : Pool) (now : Nat) : Prop := p.disposed = false ∧ p.breaker.refuses now = false

instance (p : Pool) (now : Nat) : Decidable (p.Admits now) :=
  inferInstanceAs (Decidable (_ ∧ _))

theorem Admits.starts {p : Pool} {now : Nat} (admitted : p.Admits now) :
    p.breaker.start? now = some p.breaker.letThrough := by
  rw [Breaker.start?, if_neg (by simp [admitted.2])]

end Pool

namespace QueueBackend

open Run

/-- A round trip that is let through makes the calls of the trip and no others. -/
theorem roundTrip_calls {b : QueueBackend β} {s : Session (Service β)}
    (admitted : s.outside.pool.Admits s.now) (operation : String) (trip : Run (Service β) α) :
    brokerCalls (b.roundTrip operation trip s).events =
      brokerCalls (trip { s with outside := { s.outside with pool :=
        { s.outside.pool with breaker := s.outside.pool.breaker.letThrough } } }).events := by
  have silent (result : Except Thrown α) (s : Session (Service β)) :
      brokerCalls (b.settle operation result s).events = [] :=
    keeps_settle (I := fun past _ => past = []) (fun _ _ _ none => none) operation result [] s rfl
  rw [roundTrip_of_started admitted.1 admitted.starts, bind_calls_of_silent silent,
    attempt_events]

theorem activeQueues_calls {b : QueueBackend β} {s : Session (Service β)}
    (admitted : s.outside.pool.Admits s.now) :
    brokerCalls (b.backend.activeQueues s).events =
      b.broker.upToFailure s.outside.broker (s.outside.pool.handles.map .workers) :=
  (roundTrip_calls admitted _ _).trans (follows_readWorkers b _ _ _ _).made

/-- Set up a backend and make any calls of it, whatever fails: it holds at most one handle of each
queue, and these are the handles that were never closed; every other handle was closed exactly
once; a handle was opened only for a queue whose older handles were closed; and a reading of the
workers that is let through asks for those of the queues held, in the order in which their handles
were opened, up to the first that does not answer. -/
theorem handles_held_or_closed_once (broker : Broker β) (c : Config) (logger : Log.Logger)
    (own : Bool) (s₀ : Session (Service β)) (b : QueueBackend β)
    (built : (create broker c logger own s₀).outcome = .returned b)
    (turns : List Backend.Turn) :
    let created := create broker c logger own s₀
    let past := brokerCalls created.events ++ b.backend.calls created.session turns
    let ledger := broker.handles s₀.outside.broker past
    let s := b.backend.after created.session turns
    let held := s.outside.pool.handles
    held.Nodup ∧
      held = Handle.standing ledger ∧
      (∀ h ∈ ledger, h.closes = 1 ∨ h.closes = 0 ∧ h.queue ∈ held) ∧
      (∀ before queue keyPrefix, before ++ [.openHandle queue keyPrefix] <+: past →
        ∀ h ∈ broker.handles s₀.outside.broker before, h.queue = queue → h.closes ≠ 0) ∧
      ∀ now, s.outside.pool.Admits now →
        b.backend.calls s [⟨now, .activeQueues⟩] =
          broker.upToFailure s.outside.broker (held.map .workers) := by
  intro created past ledger s held
  have same : b.broker = broker := broker_of_create built
  have accounts : broker.Accounts s₀.outside.broker past s.outside :=
    Backend.keeps_turns turns (fun t _ => same ▸ accounts_perform t.call) _
      (accounts_create broker c logger own s₀)
  refine ⟨accounts.nodup, accounts.held, ?_, ?_, ?_⟩
  · intro h listed
    have once := accounts.tidy.closes_le h listed
    by_cases never : h.closes = 0
    · have stands := Handle.mem_standing.mpr ⟨h, listed, rfl, never⟩
      exact Or.inr ⟨never, accounts.mem_handles.mpr stands⟩
    · exact Or.inl (by omega)
  · intro before queue keyPrefix earlier h listed named never
    exact accounts.sparing before queue keyPrefix earlier
      (Handle.mem_standing.mpr ⟨h, listed, named, never⟩)
  · intro now admitted
    have asked : brokerCalls (b.backend.activeQueues { s with now }).events =
        b.broker.upToFailure s.outside.broker (held.map .workers) := activeQueues_calls admitted
    rw [Backend.calls, Backend.calls, List.append_nil, Backend.take, Backend.perform,
      bind_calls_of_silent fun _ _ => rfl, asked, same]

/-- The broker refuses to close the first handle. Two queues are watched after that, and a reading
asks for the workers of both, though not through the handle that was closed. -/
theorem handles_held_or_closed_once_after_failed_dispose :
    let clinging : Play :=
      { queues := [("a", { closing := [.error (.failure (.plain "boom"))] })] }
    let s₀ : Session (Service Play) := Session.start 0 (Service.start "ready" clinging)
    let b : QueueBackend Play := ⟨Play.broker, Log.Logger.silent.child "Backend", none⟩
    let turns : List Backend.Turn := [⟨0, .dispose⟩, ⟨1, .watchQueues ["b", "a"]⟩]
    let created := create Play.broker { queues := ["a"] } Log.Logger.silent false s₀
    let past := brokerCalls created.events ++ b.backend.calls created.session turns
    let s := b.backend.after created.session turns
    Handle.standing (Play.broker.handles s₀.outside.broker past) = ["b", "a"] ∧
      b.backend.calls s [⟨2, .activeQueues⟩] = [.workers "b", .workers "a"] := by
  intro clinging s₀ b turns
  have all := handles_held_or_closed_once Play.broker { queues := ["a"] } Log.Logger.silent false
    s₀ b rfl turns
  dsimp only at all ⊢
  obtain ⟨_, standing, _, _, asked⟩ := all
  constructor
  · rw [← standing]
    decide +kernel
  · rw [asked 2 (by decide +kernel)]
    decide +kernel

end QueueBackend

end JobWatch
