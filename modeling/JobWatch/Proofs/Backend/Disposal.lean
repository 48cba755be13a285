import JobWatch.Proofs.Backend.Turns
import JobWatch.Proofs.Broker.Handles
import JobWatch.Script

/-!
# Disposing of a backend

A backend lets go of all its handles before it closes them, closes each of them whether or not the
others can be closed, and counts as disposed only if all of them could. The main statement says
what the end of a disposal means for everything that comes after it: it is final exactly if no
handle has refused to be closed. What closing a handle does at the broker's side is left open.
-/

namespace JobWatch

variable {β α : Type}

/-- What the first handle that cannot be closed fails with, when handles are closed one after the
other. -/
def Broker.closeFault? (b : Broker β) : β → List String → Option Thrown
  | _, [] => none
  | w, queue :: rest =>
    match (b.close queue w).1.outcome with
    | .ok _ => b.closeFault? (b.next w (.close queue)) rest
    | .error t => some t

/-- A disposal or a closing comes to an end, and throws if there is something to throw. -/
def Outcome.ofFault? : Option Thrown → Outcome Unit
  | none => .returned ()
  | some t => .threw t

theorem Outcome.ofFault?_ends (fault : Option Thrown) : ofFault? fault ≠ .unfinished := by
  cases fault <;> nofun

namespace QueueBackend

open Run

/-- Every handle is closed, and what comes of it is the broker's first fault. -/
theorem closeAll_run (b : QueueBackend β) (queues : List String) (s : Session (Service β)) :
    (b.closeAll queues s).outcome =
        .returned (b.broker.closeFault? s.outside.broker queues) ∧
      brokerCalls (b.closeAll queues s).events = queues.map .close ∧
      (b.closeAll queues s).session.outside =
        { s.outside with broker := b.broker.after s.outside.broker (queues.map .close) } := by
  induction queues generalizing s with
  | nil => exact ⟨rfl, rfl, rfl⟩
  | cons queue rest ih =>
    let closing : Run (Service β) Unit := call (.close queue) (b.broker.close queue)
    have came := attempt_call_outcome (.close queue) (b.broker.close queue) s
    have events : (closing.attempt s).events = [.broker (.close queue)] := by
      rw [attempt_events, call_events]
    have outside : (closing.attempt s).session.outside =
        { s.outside with broker := b.broker.next s.outside.broker (.close queue) } := by
      rw [attempt_session, call_outside]
      rfl
    -- the others are closed in any case, from where the first attempt has left the broker
    obtain ⟨later, calls, left⟩ := ih (closing.attempt s).session
    rw [outside] at later left
    rw [closeAll, bind_returned came, bind_returned later, pure_apply]
    refine ⟨?_, ?_, left⟩
    · cases fault : (b.broker.close queue s.outside.broker).1.outcome with
      | ok _ => simp only [Broker.closeFault?, fault]
      | error t => simp only [Broker.closeFault?, fault]
    · rw [brokerCalls_append, brokerCalls_append, events, calls]
      simp

/-- What a disposal throws, if it throws. -/
def disposalFault? (b : QueueBackend β) (w : Service β) : Option Thrown :=
  if w.pool.disposed then none else b.broker.closeFault? w.broker w.pool.handles

theorem dispose_of_disposed {b : QueueBackend β} {s : Session (Service β)}
    (gone : s.outside.pool.disposed = true) : b.dispose s = ⟨.returned (), [], s⟩ := by
  rw [dispose, pool_bind, if_pos gone]
  rfl

/-- A disposal closes every handle and keeps none. -/
theorem dispose_run {b : QueueBackend β} {s : Session (Service β)}
    (used : s.outside.pool.disposed = false) :
    (b.dispose s).outcome = .ofFault? (b.disposalFault? s.outside) ∧
      brokerCalls (b.dispose s).events = s.outside.pool.handles.map .close ∧
      (b.dispose s).session.outside = { s.outside with
        broker := b.broker.after s.outside.broker (s.outside.pool.handles.map .close)
        pool := { s.outside.pool with
          handles := []
          disposed := (b.disposalFault? s.outside).isNone } } := by
  have inUse : ¬ s.outside.pool.disposed = true := by simp [used]
  let emptied : Session (Service β) :=
    { s with outside := { s.outside with pool := { s.outside.pool with handles := [] } } }
  obtain ⟨fault, calls, left⟩ := b.closeAll_run s.outside.pool.handles emptied
  rw [dispose, pool_bind, if_neg inUse, modifyPool_bind, bind_returned fault,
    disposalFault?, if_neg inUse]
  cases b.broker.closeFault? s.outside.broker s.outside.pool.handles with
  | some t =>
    refine ⟨rfl, ?_, left.trans ?_⟩
    · rw [brokerCalls_append, calls]
      exact List.append_nil _
    · simp [emptied, used]
  | none =>
    -- nothing has refused to be closed, so the flag is set and a line written
    let ended := (b.closeAll s.outside.pool.handles emptied).session
    let closed : Session (Service β) :=
      { ended with outside := { ended.outside with
        pool := { ended.outside.pool with disposed := true } } }
    have quiet : Quiet (b.logger.info ("Disposed " ++ Backend.typeName ++ " backend") :
        Run (Service β) Unit) := quiet_log
    refine ⟨log_returned closed, ?_, ?_⟩
    · rw [brokerCalls_append, calls]
      exact (congrArg _ (quiet.calls closed)).trans (List.append_nil _)
    · refine (quiet.outside closed).trans ?_
      simp only [closed, ended, left]
      rfl

theorem dispose_outcome {b : QueueBackend β} {s : Session (Service β)}
    (used : s.outside.pool.disposed = false) :
    (b.dispose s).outcome =
      .ofFault? (b.broker.closeFault? s.outside.broker s.outside.pool.handles) := by
  rw [(dispose_run used).1, disposalFault?, if_neg (by simp [used])]

theorem dispose_ends (b : QueueBackend β) (s : Session (Service β)) :
    (b.dispose s).outcome ≠ .unfinished := by
  cases used : s.outside.pool.disposed with
  | true => simp [dispose_of_disposed used]
  | false =>
    rw [dispose_outcome used]
    exact Outcome.ofFault?_ends _

/-! ## A disposed backend -/

variable {b : QueueBackend β} {s : Session (Service β)}

theorem watch_of_disposed (gone : s.outside.pool.disposed = true) (queues : List String) :
    b.watch queues s = ⟨.returned (), [], s⟩ := by
  rw [watch, pool_bind, if_pos gone]
  rfl

/-- A disposed backend does nothing any more, and says so to who asks it for an answer. -/
theorem perform_of_disposed (gone : s.outside.pool.disposed = true) (call : BackendCall) :
    b.backend.perform call s =
      ⟨if call.isQuery then .threw disposal else .returned (), [], s⟩ := by
  have refused {α γ : Type} {operation : String} {trip : Run (Service β) α}
      {f : α → Run (Service β) γ} :
      (b.roundTrip operation trip >>= f) s = ⟨.threw disposal, [], s⟩ := by
    rw [bind_threw (t := disposal) (by rw [roundTrip_of_disposed gone]),
      roundTrip_of_disposed gone]
  cases call with
  | watchQueues queues => exact watch_of_disposed gone queues
  | queueStatus queues => exact refused
  | activeQueues => exact refused
  | workerIdentifiers =>
    have asked : b.backend.workerIdentifiers s = ⟨.threw disposal, [], s⟩ := refused
    rw [Backend.perform, bind_threw (t := disposal) (by rw [asked]), asked]
    rfl
  | workersProcessing queues => exact refused
  | dispose => exact dispose_of_disposed gone

theorem after_of_disposed (gone : s.outside.pool.disposed = true) (turns : List Backend.Turn) :
    (b.backend.after s turns).outside = s.outside ∧ b.backend.calls s turns = [] := by
  induction turns generalizing s with
  | nil => exact ⟨rfl, rfl⟩
  | cons t rest ih =>
    have same : b.backend.take t s = _ :=
      perform_of_disposed (s := { s with now := t.now }) gone t.call
    rw [Backend.after, Backend.calls, same]
    exact ih gone

end QueueBackend

/-- From now on the backend calls no broker, and whoever asks it for an answer hears that it has
been disposed of. -/
def Backend.IsFinal (b : Backend (Service β)) (s : Session (Service β)) : Prop :=
  ∀ turns, b.calls s turns = [] ∧
    ∀ t, t.call.isQuery = true →
      (b.take t (b.after s turns)).outcome = .threw QueueBackend.disposal

namespace QueueBackend

open Run

theorem isFinal_of_disposed {b : QueueBackend β} {s : Session (Service β)}
    (gone : s.outside.pool.disposed = true) : b.backend.IsFinal s := by
  intro turns
  obtain ⟨same, none⟩ := after_of_disposed (b := b) gone turns
  refine ⟨none, fun t query => ?_⟩
  have still : (b.backend.after s turns).outside.pool.disposed = true := same ▸ gone
  have refused : b.backend.take t (b.backend.after s turns) = _ :=
    perform_of_disposed (s := { b.backend.after s turns with now := t.now }) still t.call
  rw [refused, if_pos query]

/-- A backend that is not disposed of opens a handle for whoever wants one. -/
theorem not_isFinal_of_used {b : QueueBackend β} {s : Session (Service β)}
    (used : s.outside.pool.disposed = false) (none : s.outside.pool.handles = []) :
    ¬ b.backend.IsFinal s := by
  intro final
  have missing : "" ∉ s.outside.pool.handles := by simp [none]
  have opened : b.backend.calls s [⟨s.now, .watchQueues [""]⟩] =
      [.openHandle "" b.keyPrefix] := by
    have watched : b.watch [""] s = b.hold "" s := by
      rw [watch_of_used used, holdAll, holdAll, bind_pure_unit]
    rw [Backend.calls, Backend.calls, List.append_nil]
    exact (congrArg _ (congrArg _ watched)).trans (hold_calls missing)
  rw [(final _).1] at opened
  cases opened

/-- A disposal comes to the first fault of its closings, or returns if there is none. It is final
exactly if there is none: from then on no broker is called, whatever is asked of the backend, and
every query hears that it has been disposed of. -/
theorem final_after_dispose_iff (b : QueueBackend β) (s : Session (Service β)) :
    (b.dispose s).outcome = .ofFault? (b.disposalFault? s.outside) ∧
      (b.backend.IsFinal (b.dispose s).session ↔ b.disposalFault? s.outside = none) := by
  cases used : s.outside.pool.disposed with
  | true =>
    have none : b.disposalFault? s.outside = none := if_pos used
    rw [dispose_of_disposed used, none]
    exact ⟨rfl, fun _ => rfl, fun _ => isFinal_of_disposed used⟩
  | false =>
    obtain ⟨outcome, _, left⟩ := dispose_run (b := b) used
    refine ⟨outcome, ?_⟩
    have handles : (b.dispose s).session.outside.pool.handles = [] := by rw [left]
    have disposed : (b.dispose s).session.outside.pool.disposed =
        (b.disposalFault? s.outside).isNone := by rw [left]
    constructor
    · intro final
      by_contra fault
      refine not_isFinal_of_used ?_ handles final
      rw [disposed, Option.isNone_eq_false_iff, Option.isSome_iff_ne_none]
      exact fault
    · intro none
      refine isFinal_of_disposed ?_
      rw [disposed, none]
      rfl

/-- The broker refuses to close the one handle there is, and the disposal throws. The next query
opens a handle again and gets its answer from the broker. -/
theorem query_reaches_broker_after_failed_dispose :
    let boom : Thrown := .failure (.plain "boom")
    let clinging : Play := { queues := [("a", { closing := [.error boom] })] }
    let b : QueueBackend Play := ⟨Play.broker, Log.Logger.silent, none⟩
    let s : Session (Service Play) := Session.start 0
      { Service.start "ready" clinging with pool := { Pool.new none none with handles := ["a"] } }
    (b.dispose s).outcome = .threw boom ∧
      (b.backend.take ⟨0, .queueStatus ["a"]⟩ (b.dispose s).session).outcome = .returned () ∧
      b.backend.calls (b.dispose s).session [⟨0, .queueStatus ["a"]⟩] =
        [.openHandle "a" none, .jobCounts "a", .workers "a"] := by
  refine ⟨rfl, rfl, ?_⟩
  decide +kernel

end QueueBackend

end JobWatch
