import JobWatch.Broker.Basic
import JobWatch.Proofs.Run.Invariants

/-!
# Trails of calls to a broker

A trail tells which calls were made to a broker, and the broker itself tells which of them went
through. Some runs make the calls of a list one after the other and end with the first that does
not go through; what becomes of a sequence of such runs is decided by the broker and the list.
-/

namespace JobWatch

variable {β α γ : Type}

/-- A call, and whether it went through. -/
structure Dealing where
  call : BrokerCall
  passed : Bool
deriving DecidableEq, Repr

namespace Broker

/-- A responder's part in a call: whether the call goes through, and the state after it. -/
def told (respond : Responder β α) (w : β) : Bool × β :=
  ((respond w).1.outcome.isOk, (respond w).2)

/-- Constructing a client and cutting it off are not the broker's business. -/
def answer (b : Broker β) (w : β) : BrokerCall → Bool × β
  | .construct _ => (true, w)
  | .disconnect => (true, w)
  | .connect => told b.connect w
  | .ping => told b.ping w
  | .quit => told b.quit w
  | .openHandle queue _ => told (b.openHandle queue) w
  | .jobCounts queue => told (b.jobCounts queue) w
  | .workers queue => told (b.workers queue) w
  | .activeCount queue => told (b.activeCount queue) w
  | .close queue => told (b.close queue) w

def passes (b : Broker β) (w : β) (call : BrokerCall) : Bool := (b.answer w call).1

def next (b : Broker β) (w : β) (call : BrokerCall) : β := (b.answer w call).2

/-- The broker after a trail of calls. -/
def after (b : Broker β) (w : β) (calls : List BrokerCall) : β := calls.foldl b.next w

/-- The trail with the broker's part in it. -/
def dealings (b : Broker β) : β → List BrokerCall → List Dealing
  | _, [] => []
  | w, call :: rest => ⟨call, b.passes w call⟩ :: b.dealings (b.next w call) rest

theorem after_append (b : Broker β) (w : β) (xs ys : List BrokerCall) :
    b.after w (xs ++ ys) = b.after (b.after w xs) ys := List.foldl_append

theorem dealings_append (b : Broker β) (w : β) (xs ys : List BrokerCall) :
    b.dealings w (xs ++ ys) = b.dealings w xs ++ b.dealings (b.after w xs) ys := by
  induction xs generalizing w with
  | nil => rfl
  | cons call rest ih => exact congrArg (⟨call, b.passes w call⟩ :: ·) (ih (b.next w call))

/-- All calls of a list go through. -/
def allPass (b : Broker β) (w : β) (calls : List BrokerCall) : Bool :=
  (b.dealings w calls).all Dealing.passed

/-- The first calls of a list, up to the one that does not go through. -/
def upToFailure (b : Broker β) : β → List BrokerCall → List BrokerCall
  | _, [] => []
  | w, call :: rest => call :: if b.passes w call then b.upToFailure (b.next w call) rest else []

theorem allPass_cons (b : Broker β) (w : β) (call : BrokerCall) (rest : List BrokerCall) :
    b.allPass w (call :: rest) = (b.passes w call && b.allPass (b.next w call) rest) := rfl

theorem allPass_singleton (b : Broker β) (w : β) (call : BrokerCall) :
    b.allPass w [call] = b.passes w call := Bool.and_true _

theorem upToFailure_singleton (b : Broker β) (w : β) (call : BrokerCall) :
    b.upToFailure w [call] = [call] := by
  rw [upToFailure]
  cases b.passes w call <;> rfl

theorem allPass_append (b : Broker β) (w : β) (xs ys : List BrokerCall) :
    b.allPass w (xs ++ ys) = (b.allPass w xs && b.allPass (b.after w xs) ys) := by
  rw [allPass, dealings_append, List.all_append]
  rfl

theorem upToFailure_append (b : Broker β) (w : β) (xs ys : List BrokerCall) :
    b.upToFailure w (xs ++ ys) =
      if b.allPass w xs then xs ++ b.upToFailure (b.after w xs) ys else b.upToFailure w xs := by
  induction xs generalizing w with
  | nil => rfl
  | cons call rest ih =>
    rw [List.cons_append, upToFailure, upToFailure, ih, allPass_cons]
    cases b.passes w call with
    | false => rfl
    | true =>
      by_cases further : b.allPass (b.next w call) rest = true
      · simp only [if_pos further, Bool.true_and, if_true]
        rfl
      · simp only [if_neg further, Bool.true_and, if_true]

theorem upToFailure_of_allPass {b : Broker β} {w : β} {calls : List BrokerCall}
    (pass : b.allPass w calls = true) : b.upToFailure w calls = calls := by
  have all := b.upToFailure_append w calls []
  rw [if_pos pass, List.append_nil, upToFailure, List.append_nil] at all
  exact all

theorem mem_of_mem_upToFailure {b : Broker β} {w : β} {calls : List BrokerCall}
    {call : BrokerCall} (made : call ∈ b.upToFailure w calls) : call ∈ calls := by
  induction calls generalizing w with
  | nil => exact made
  | cons first rest ih =>
    rw [upToFailure] at made
    rcases List.mem_cons.mp made with rfl | made
    · exact List.mem_cons_self
    · by_cases passes : b.passes w first = true
      · rw [if_pos passes] at made
        exact List.mem_cons_of_mem _ (ih made)
      · rw [if_neg passes] at made
        cases made

end Broker

namespace Run

variable {I : List BrokerCall → Service β → Prop}

theorem pool_bind (f : Pool → Run (Service β) α) (s : Session (Service β)) :
    (pool >>= f) s = f s.outside.pool s := rfl

theorem modifyPool_bind (f : Pool → Pool) (g : Unit → Run (Service β) α)
    (s : Session (Service β)) :
    (modifyPool f >>= g) s =
      g () { s with outside := { s.outside with pool := f s.outside.pool } } := rfl

theorem now_bind (f : Nat → Run (Service β) α) (s : Session (Service β)) :
    (now >>= f) s = f s.now s := rfl

theorem quiet_pool : Quiet (pool : Run (Service β) Pool) :=
  quiet_outside.bind fun _ => quiet_pure _

theorem keeps_modifyPool {f : Pool → Pool}
    (same : ∀ past w, I past w → I past { w with pool := f w.pool }) :
    Keeps I (modifyPool f) := by
  intro past s holds
  exact (List.append_nil past).symm ▸ same past s.outside holds

theorem call_events (c : BrokerCall) (respond : Responder β α) (s : Session (Service β)) :
    (call c respond s).events = [.broker c] := by
  unfold call ask
  cases h : (respond s.outside.broker).1.outcome <;> simp only [h]

/-- A call changes nothing outside but the broker. -/
theorem call_outside (c : BrokerCall) (respond : Responder β α) (s : Session (Service β)) :
    (call c respond s).session.outside =
      { s.outside with broker := (respond s.outside.broker).2 } := by
  unfold call ask
  by_cases aborts : (respond s.outside.broker).1.aborts = true <;>
    cases h : (respond s.outside.broker).1.outcome <;>
      simp only [h, aborts, if_true, if_false, Session.raise, Bool.false_eq_true]

theorem call_returned {c : BrokerCall} {respond : Responder β α} {s : Session (Service β)} {a : α}
    (h : (respond s.outside.broker).1.outcome = .ok a) :
    (call c respond s).outcome = .returned a := by
  simp only [call, ask, h]

theorem call_threw {c : BrokerCall} {respond : Responder β α} {s : Session (Service β)}
    {t : Thrown} (h : (respond s.outside.broker).1.outcome = .error t) :
    (call c respond s).outcome = .threw t := by
  simp only [call, ask, h]

theorem attempt_call_outcome (c : BrokerCall) (respond : Responder β α)
    (s : Session (Service β)) :
    ((call c respond).attempt s).outcome = .returned (respond s.outside.broker).1.outcome := by
  unfold Run.attempt
  cases came : (respond s.outside.broker).1.outcome with
  | ok a => simp only [call_returned came]
  | error t => simp only [call_threw came]

theorem keeps_call {c : BrokerCall} {respond : Responder β α}
    (made : ∀ past w, I past w → I (past ++ [c]) { w with broker := (respond w.broker).2 }) :
    Keeps I (call c respond) := by
  intro past s holds
  rw [call_events, call_outside]
  exact made past s.outside holds

section Kinds

variable {kind : BrokerCall → Prop} {c : BrokerCall}

theorem only_concat {σ : Type} {past : List BrokerCall} {w w' : σ} (only : Only kind past w)
    (of : kind c) : Only kind (past ++ [c]) w' := by
  intro c' listed
  rcases List.mem_append.mp listed with earlier | last
  · exact only c' earlier
  · exact List.mem_singleton.mp last ▸ of

theorem keeps_only_call (of : kind c) (respond : Responder β α) :
    Keeps (Only kind) (call c respond) :=
  keeps_call fun _ _ only => only_concat only of

theorem keeps_only_emit (of : kind c) :
    Keeps (Only kind) (emit (.broker c) : Run (Service β) Unit) :=
  fun _ _ only => only_concat only of

end Kinds

/-! ## Runs along a list of calls -/

/-- A run makes the calls of a list, ends with the first that does not go through, and returns if
there is none. -/
structure Follows (b : Broker β) (calls : List BrokerCall) (x : Run (Service β) α)
    (s : Session (Service β)) : Prop where
  made : brokerCalls (x s).events = b.upToFailure s.outside.broker calls
  broker : (x s).session.outside.broker =
    b.after s.outside.broker (b.upToFailure s.outside.broker calls)
  returns : b.allPass s.outside.broker calls = true → ∃ a, (x s).outcome = .returned a
  throws : b.allPass s.outside.broker calls = false → ∃ t, (x s).outcome = .threw t

/-- A run makes the calls of a list before any others, and ends with the first that does not go
through. -/
structure Begins (b : Broker β) (calls : List BrokerCall) (x : Run (Service β) α)
    (s : Session (Service β)) : Prop where
  goes : b.allPass s.outside.broker calls = true →
    ∃ later, brokerCalls (x s).events = calls ++ later
  stops : b.allPass s.outside.broker calls = false →
    brokerCalls (x s).events = b.upToFailure s.outside.broker calls ∧
      ∃ t, (x s).outcome = .threw t

section Along

variable {b : Broker β} {xs ys : List BrokerCall} {x : Run (Service β) α}
  {f : α → Run (Service β) γ} {s : Session (Service β)}

theorem follows_nothing {a : α} (returned : (x s).outcome = .returned a)
    (silent : brokerCalls (x s).events = [])
    (same : (x s).session.outside.broker = s.outside.broker) : Follows b [] x s :=
  ⟨silent, same, fun _ => ⟨a, returned⟩, nofun⟩

theorem follows_call {c : BrokerCall} {respond : Responder β α}
    (asks : b.answer s.outside.broker c = Broker.told respond s.outside.broker) :
    Follows b [c] (call c respond) s := by
  have one := b.upToFailure_singleton s.outside.broker c
  have all : b.allPass s.outside.broker [c] = (respond s.outside.broker).1.outcome.isOk :=
    (b.allPass_singleton _ c).trans (congrArg Prod.fst asks)
  refine ⟨?_, ?_, ?_, ?_⟩
  · rw [call_events, one]
    rfl
  · rw [call_outside, one]
    exact (congrArg Prod.snd asks).symm
  · rw [all]
    cases came : (respond s.outside.broker).1.outcome with
    | ok a => exact fun _ => ⟨a, call_returned came⟩
    | error t => exact nofun
  · rw [all]
    cases came : (respond s.outside.broker).1.outcome with
    | ok a => exact nofun
    | error t => exact fun _ => ⟨t, call_threw came⟩

theorem Follows.of_eq {y : Run (Service β) α} {s' : Session (Service β)} (hx : Follows b xs x s)
    (same : y s' = x s) (here : s'.outside.broker = s.outside.broker) : Follows b xs y s' := by
  obtain ⟨made, broker, returns, throws⟩ := hx
  rw [← same, ← here] at made broker returns throws
  exact ⟨made, broker, returns, throws⟩

/-- A sequence makes the calls of its first part and then those of the second. -/
theorem Follows.bind (hx : Follows b xs x s)
    (hf : ∀ a, (x s).outcome = .returned a → Follows b ys (f a) (x s).session) :
    Follows b (xs ++ ys) (x >>= f) s := by
  cases pass : b.allPass s.outside.broker xs with
  | true =>
    obtain ⟨a, came⟩ := hx.returns pass
    -- the second part finds the broker as all calls of the first have left it
    obtain ⟨made, broker, returns, throws⟩ := hf a came
    rw [hx.broker, Broker.upToFailure_of_allPass pass] at made broker returns throws
    refine ⟨?_, ?_, ?_, ?_⟩
    · rw [bind_returned came, brokerCalls_append, hx.made, made, Broker.upToFailure_append,
        if_pos pass, Broker.upToFailure_of_allPass pass]
    · rw [bind_returned came, broker, Broker.upToFailure_append, if_pos pass,
        Broker.after_append]
    · rw [Broker.allPass_append, pass, bind_returned came]
      exact returns
    · rw [Broker.allPass_append, pass, bind_returned came]
      exact throws
  | false =>
    obtain ⟨t, came⟩ := hx.throws pass
    have stopped : ¬ b.allPass s.outside.broker xs = true := by simp [pass]
    refine ⟨?_, ?_, ?_, ?_⟩
    · rw [bind_threw came, Broker.upToFailure_append, if_neg stopped]
      exact hx.made
    · rw [bind_threw came, Broker.upToFailure_append, if_neg stopped]
      exact hx.broker
    · rw [Broker.allPass_append, pass]
      exact nofun
    · exact fun _ => ⟨t, by rw [bind_threw came]⟩

/-- A run goes along the same calls if what it comes to is only returned or thrown otherwise. -/
theorem Follows.recast (hx : Follows b xs x s) {g : Except Thrown α → Run (Service β) γ}
    (quiet : ∀ result, Quiet (g result))
    (returns : ∀ a s, ∃ c, (g (.ok a) s).outcome = .returned c)
    (throws : ∀ t s, ∃ t', (g (.error t) s).outcome = .threw t') :
    Follows b xs (do g (← x.attempt)) s := by
  have silent : brokerCalls ((do g (← x.attempt)) s).events = brokerCalls (x s).events := by
    rw [bind_calls_of_silent fun result => (quiet result).calls, attempt_events]
  cases pass : b.allPass s.outside.broker xs with
  | true =>
    obtain ⟨a, came⟩ := hx.returns pass
    refine ⟨silent.trans hx.made, ?_, fun _ => ?_, fun stopped => ?_⟩
    · rw [bind_returned (attempt_returned came), (quiet _).outside, attempt_session]
      exact hx.broker
    · rw [bind_returned (attempt_returned came)]
      exact returns a _
    · exact Bool.noConfusion (pass.symm.trans stopped)
  | false =>
    obtain ⟨t, came⟩ := hx.throws pass
    refine ⟨silent.trans hx.made, ?_, fun pass' => ?_, fun _ => ?_⟩
    · rw [bind_returned (attempt_threw came), (quiet _).outside, attempt_session]
      exact hx.broker
    · exact Bool.noConfusion (pass.symm.trans pass')
    · rw [bind_returned (attempt_threw came)]
      exact throws t _

theorem Follows.begins (hx : Follows b xs x s) : Begins b xs x s :=
  ⟨fun pass => ⟨[], by rw [hx.made, Broker.upToFailure_of_allPass pass, List.append_nil]⟩,
    fun stopped => ⟨hx.made, hx.throws stopped⟩⟩

theorem Begins.of_eq {y : Run (Service β) α} {s' : Session (Service β)} (hx : Begins b xs x s)
    (same : y s' = x s) (here : s'.outside.broker = s.outside.broker) : Begins b xs y s' := by
  obtain ⟨goes, stops⟩ := hx
  rw [← same, ← here] at goes stops
  exact ⟨goes, stops⟩

/-- What comes after the calls of a list does not matter to how a run begins. -/
theorem Begins.bind (hx : Begins b xs x s) : Begins b xs (x >>= f) s := by
  constructor
  · intro pass
    obtain ⟨later, made⟩ := hx.goes pass
    rcases bind_calls x f s with same | ⟨a, s', more⟩
    · exact ⟨later, same.trans made⟩
    · rw [more, made, List.append_assoc]
      exact ⟨_, rfl⟩
  · intro stopped
    obtain ⟨made, t, came⟩ := hx.stops stopped
    rw [bind_threw came]
    exact ⟨made, t, rfl⟩

theorem Follows.bind_begins (hx : Follows b xs x s)
    (hf : ∀ a, (x s).outcome = .returned a → Begins b ys (f a) (x s).session) :
    Begins b (xs ++ ys) (x >>= f) s := by
  cases pass : b.allPass s.outside.broker xs with
  | true =>
    obtain ⟨a, came⟩ := hx.returns pass
    obtain ⟨goes, stops⟩ := hf a came
    rw [hx.broker, Broker.upToFailure_of_allPass pass] at goes stops
    have both : b.allPass s.outside.broker (xs ++ ys) =
        b.allPass (b.after s.outside.broker xs) ys := by
      rw [Broker.allPass_append, pass, Bool.true_and]
    have first : brokerCalls (x s).events = xs := by
      rw [hx.made, Broker.upToFailure_of_allPass pass]
    constructor
    · intro pass'
      obtain ⟨later, made⟩ := goes (both ▸ pass')
      rw [bind_returned came, brokerCalls_append, first, made, ← List.append_assoc]
      exact ⟨later, rfl⟩
    · intro stopped
      obtain ⟨made, threw⟩ := stops (both ▸ stopped)
      rw [bind_returned came, brokerCalls_append, first, made, Broker.upToFailure_append,
        if_pos pass]
      exact ⟨rfl, threw⟩
  | false =>
    obtain ⟨t, came⟩ := hx.throws pass
    have stopped : ¬ b.allPass s.outside.broker xs = true := by simp [pass]
    constructor
    · rw [Broker.allPass_append, pass]
      exact nofun
    · intro _
      rw [bind_threw came, Broker.upToFailure_append, if_neg stopped]
      exact ⟨hx.made, t, rfl⟩

end Along

end Run

end JobWatch
