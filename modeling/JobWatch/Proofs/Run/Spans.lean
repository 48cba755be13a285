import JobWatch.Proofs.Run.Invariants

/-!
# Where runs lead

A run leads from one session to another and leaves a trail in between. A relation between the
three that composes holds of a sequence if it holds of the parts, wherever the sequence ends. Two
such relations stand here: one on what kinds of events there are in the trail, and one on the
clock, which moves by what the timers in the trail take as long as the signal is down.
-/

namespace JobWatch

def Event.isLine : Event → Bool
  | .console _ _ _ => true
  | _ => false

namespace Run

variable {σ α β : Type}

/-- A relation between the start of a run, its trail and its end that composes. Lines on the
console are always allowed. -/
structure Composes (R : Session σ → List Event → Session σ → Prop) : Prop where
  still : ∀ s, R s [] s
  line : ∀ s channel text details, R s [.console channel text details] s
  trans : ∀ {s s' s'' events events'},
    R s events s' → R s' events' s'' → R s (events ++ events') s''

/-- However the run ends, the relation holds of its start, its trail and its end. -/
def Spans (R : Session σ → List Event → Session σ → Prop) (x : Run σ α) : Prop :=
  ∀ s, R s (x s).events (x s).session

variable {R : Session σ → List Event → Session σ → Prop}

namespace Composes

theorem bind (composes : Composes R) {x : Run σ α} {f : α → Run σ β} (hx : Spans R x)
    (hf : ∀ a, Spans R (f a)) : Spans R (x >>= f) := by
  intro s
  cases came : (x s).outcome with
  | returned a =>
    rw [bind_returned came]
    exact composes.trans (hx s) (hf a _)
  | threw t =>
    rw [bind_threw came]
    exact hx s
  | unfinished =>
    rw [bind_unfinished came]
    exact hx s

theorem pure (composes : Composes R) (a : α) : Spans R (pure a : Run σ α) :=
  fun s => composes.still s

theorem fail (composes : Composes R) (f : Failure) : Spans R (fail f : Run σ α) :=
  fun s => composes.still s

theorem unfinished (composes : Composes R) : Spans R (unfinished : Run σ α) :=
  fun s => composes.still s

theorem require (composes : Composes R) (e : Except Failure α) : Spans R (require e) := by
  cases e with
  | ok a => exact composes.pure a
  | error f => exact composes.fail f

theorem throw (composes : Composes R) (t : Thrown) : Spans R (throw t : Run σ α) :=
  fun s => composes.still s

theorem now (composes : Composes R) : Spans R (now : Run σ Nat) := fun s => composes.still s

theorem outside (composes : Composes R) : Spans R (outside : Run σ σ) :=
  fun s => composes.still s

theorem throwIfAborted (composes : Composes R) : Spans R (throwIfAborted : Run σ Unit) := by
  intro s
  unfold Run.throwIfAborted
  split <;> exact composes.still s

theorem log (composes : Composes R) (l : Log.Logger) (level : Log.Level) (message : String)
    (details : List Detail) : Spans R (l.log level message details) := by
  unfold Log.Logger.log
  split
  · exact composes.bind composes.now fun _ s => composes.line s _ _ _
  · exact composes.pure ()

end Composes

theorem Spans.attempt {x : Run σ α} (h : Spans R x) : Spans R x.attempt := by
  intro s
  rw [attempt_events, attempt_session]
  exact h s

/-- What runs keep is where they lead: if the invariant holds at the start, it holds in the end. -/
def Upheld (I : List BrokerCall → σ → Prop) (s : Session σ) (events : List Event)
    (s' : Session σ) : Prop :=
  ∀ past, I past s.outside → I (past ++ brokerCalls events) s'.outside

theorem composes_upheld (I : List BrokerCall → σ → Prop) : Composes (Upheld I) where
  still s past holds := by rwa [brokerCalls_nil, List.append_nil]
  line s _ _ _ past holds := by
    rw [brokerCalls, List.filterMap_cons_none rfl, List.filterMap_nil, List.append_nil]
    exact holds
  trans first later past holds := by
    rw [brokerCalls_append, ← List.append_assoc]
    exact later _ (first past holds)

theorem keeps_iff_spans {I : List BrokerCall → σ → Prop} {x : Run σ α} :
    Keeps I x ↔ Spans (Upheld I) x :=
  ⟨fun keeps s past => keeps past s, fun spans past s => spans s past⟩

/-! ## Kinds of events -/

/-- All events are of a kind. -/
def OfKind (kind : Event → Prop) (_ : Session σ) (events : List Event) (_ : Session σ) : Prop :=
  ∀ e ∈ events, kind e

theorem composes_kind {kind : Event → Prop}
    (line : ∀ channel text details, kind (.console channel text details)) :
    Composes (OfKind kind : Session σ → List Event → Session σ → Prop) where
  still _ _ listed := absurd listed List.not_mem_nil
  line _ _ _ _ := List.forall_mem_singleton.mpr (line _ _ _)
  trans first later e listed := (List.mem_append.mp listed).elim (first e) (later e)

/-- The session in which an answer comes. -/
def answered (respond : Responder σ α) (s : Session σ) : Session σ :=
  let heard := { s with outside := (respond s.outside).2 }
  if (respond s.outside).1.aborts then heard.raise else heard

theorem ask_ok {e : Event} {respond : Responder σ α} {s : Session σ} {a : α}
    (answer : (respond s.outside).1.outcome = .ok a) :
    ask e respond s = ⟨.returned a, [e], answered respond s⟩ := by
  simp only [ask, answered, answer]

theorem ask_error {e : Event} {respond : Responder σ α} {s : Session σ} {t : Thrown}
    (answer : (respond s.outside).1.outcome = .error t) :
    ask e respond s = ⟨.threw t, [e], answered respond s⟩ := by
  simp only [ask, answered, answer]

theorem ask_events (e : Event) (respond : Responder σ α) (s : Session σ) :
    (ask e respond s).events = [e] := by
  cases answer : (respond s.outside).1.outcome with
  | ok a => rw [ask_ok answer]
  | error t => rw [ask_error answer]

theorem ask_session (e : Event) (respond : Responder σ α) (s : Session σ) :
    (ask e respond s).session = answered respond s := by
  cases answer : (respond s.outside).1.outcome with
  | ok a => rw [ask_ok answer]
  | error t => rw [ask_error answer]

theorem ask_ends (e : Event) (respond : Responder σ α) (s : Session σ) :
    (ask e respond s).outcome ≠ .unfinished := by
  cases answer : (respond s.outside).1.outcome with
  | ok a => simp [ask_ok answer]
  | error t => simp [ask_error answer]

theorem answered_now (respond : Responder σ α) (s : Session σ) :
    (answered respond s).now = s.now := by
  unfold answered
  dsimp only
  split <;> rfl

theorem answered_outside (respond : Responder σ α) (s : Session σ) :
    (answered respond s).outside = (respond s.outside).2 := by
  unfold answered
  dsimp only
  split <;> rfl

theorem answered_raised {respond : Responder σ α} {s : Session σ} (raised : s.signal = .raised) :
    (answered respond s).signal = .raised := by
  unfold answered
  dsimp only
  split
  · simp [Session.raise, raised, Signal.raise]
  · exact raised

theorem kind_ask {kind : Event → Prop} {e : Event} (holds : kind e) (respond : Responder σ α) :
    Spans (OfKind kind) (ask e respond) := by
  intro s
  rw [ask_events]
  exact List.forall_mem_singleton.mpr holds

/-- A line on the console, if its level is enabled, is all there is to logging. -/
theorem log_apply (l : Log.Logger) (level : Log.Level) (message : String) (details : List Detail)
    (s : Session σ) :
    ∃ lines, (l.log level message details : Run σ Unit) s = ⟨.returned (), lines, s⟩ ∧
      ∀ e ∈ lines, e.isLine = true := by
  refine ⟨_, l.log_line level message details s, ?_⟩
  split
  · exact List.forall_mem_singleton.mpr rfl
  · exact List.forall_mem_nil _

/-- What comes after a line on the console starts where the line was written. -/
theorem log_bind (l : Log.Logger) (level : Log.Level) (message : String) (details : List Detail)
    (f : Unit → Run σ β) (s : Session σ) :
    ∃ lines, (∀ e ∈ lines, e.isLine = true) ∧ (l.log level message details >>= f) s =
      ⟨(f () s).outcome, lines ++ (f () s).events, (f () s).session⟩ := by
  obtain ⟨lines, logs, lined⟩ := log_apply l level message details s
  exact ⟨lines, lined, by rw [bind_returned (by rw [logs]), logs]⟩

/-- A line in the end changes nothing but the trail, and only if it is reached. -/
theorem bind_log (x : Run σ Unit) (l : Log.Logger) (level : Log.Level) (message : String)
    (details : List Detail) (s : Session σ) :
    ∃ lines, (∀ e ∈ lines, e.isLine = true) ∧ (do x; l.log level message details) s =
      ⟨(x s).outcome, (x s).events ++ lines, (x s).session⟩ := by
  cases came : (x s).outcome with
  | returned u =>
    obtain ⟨lines, logs, lined⟩ := log_apply l level message details (x s).session
    exact ⟨lines, lined, by rw [bind_returned came, logs]⟩
  | threw t => exact ⟨[], List.forall_mem_nil _, by rw [bind_threw came, List.append_nil]⟩
  | unfinished => exact ⟨[], List.forall_mem_nil _, by rw [bind_unfinished came, List.append_nil]⟩

theorem brokerCalls_of_lines {lines : List Event} (lined : ∀ e ∈ lines, e.isLine = true) :
    brokerCalls lines = [] := by
  refine List.filterMap_eq_nil_iff.mpr fun e listed => ?_
  cases e with
  | console => rfl
  | _ => cases lined _ listed

/-! ## Waiting -/

theorem ring_interrupts (s : Session σ) (a : Alarm) :
    ∀ e ∈ (s.ring a).2, ∃ name, e = .interrupt name := by
  cases a with
  | abort => exact List.forall_mem_nil _
  | interrupt name =>
    by_cases heard : name ∈ s.listening
    · rw [Session.ring, if_pos heard]
      exact List.forall_mem_singleton.mpr ⟨name, rfl⟩
    · rw [Session.ring, if_neg heard]
      exact List.forall_mem_singleton.mpr ⟨name, rfl⟩

/-- A wait that starts with the signal down goes on to the end, or until the signal is raised.
Meanwhile only interrupts are seen. -/
theorem waitUntil_cases (due alarms : Nat) {s : Session σ} (down : s.signal ≠ .raised) :
    (∀ e ∈ (waitUntil throwIfAborted due alarms s).events, ∃ name, e = .interrupt name) ∧
      (((waitUntil throwIfAborted due alarms s).outcome = .returned () ∧
          (waitUntil throwIfAborted due alarms s).session.signal ≠ .raised ∧
          (waitUntil throwIfAborted due alarms s).session.now = due) ∨
        ((waitUntil throwIfAborted due alarms s).outcome = .threw (.failure .aborted) ∧
          (waitUntil throwIfAborted due alarms s).session.signal = .raised)) := by
  induction alarms generalizing s with
  | zero => exact ⟨List.forall_mem_nil _, Or.inl ⟨rfl, down, rfl⟩⟩
  | succ alarms ih =>
    unfold waitUntil
    cases firstDue? due s.alarms with
    | none => exact ⟨List.forall_mem_nil _, Or.inl ⟨rfl, down, rfl⟩⟩
    | some first =>
      obtain ⟨time, alarm⟩ := first
      dsimp only
      -- the session in which the alarm goes off, and what is left of it
      generalize { s with now := max s.now time, alarms := s.alarms.erase (time, alarm) } = woken
      have rings := ring_interrupts woken alarm
      by_cases raised : (woken.ring alarm).1.signal = .raised
      · rw [throwIfAborted_bind, if_pos raised]
        refine ⟨fun e listed => ?_, Or.inr ⟨rfl, raised⟩⟩
        exact rings e (by simpa using listed)
      · rw [throwIfAborted_bind, if_neg raised]
        obtain ⟨interrupts, ended⟩ := ih raised
        refine ⟨fun e listed => ?_, ended⟩
        exact (List.mem_append.mp listed).elim (rings e) (interrupts e)

/-- A sleep that starts with the signal raised is none. Any other one sets a timer and waits until
it goes off, or until the signal is raised. -/
theorem pause_cases (ms : Binary64) (s : Session σ) :
    (s.signal = .raised ∧ pause ms s = ⟨.threw (.failure .aborted), [], s⟩) ∨
      s.signal ≠ .raised ∧
        (∃ later, (pause ms s).events = .timer ms :: later ∧
          ∀ e ∈ later, ∃ name, e = .interrupt name) ∧
        (((pause ms s).outcome = .returned () ∧ (pause ms s).session.signal ≠ .raised ∧
            (pause ms s).session.now = s.now + Delay.effective ms) ∨
          ((pause ms s).outcome = .threw (.failure .aborted) ∧
            (pause ms s).session.signal = .raised)) := by
  by_cases raised : s.signal = .raised
  · refine Or.inl ⟨raised, ?_⟩
    rw [pause, throwIfAborted_bind, if_pos raised]
  · refine Or.inr ⟨raised, ?_⟩
    have waits : pause ms s =
        let r := waitUntil throwIfAborted (s.now + Delay.effective ms) s.alarms.length s
        ⟨r.outcome, .timer ms :: r.events, r.session⟩ := by
      rw [pause, throwIfAborted_bind, if_neg raised]
      rfl
    obtain ⟨interrupts, ended⟩ :=
      waitUntil_cases (s.now + Delay.effective ms) s.alarms.length raised
    rw [waits]
    exact ⟨⟨_, rfl, interrupts⟩, ended⟩

theorem pause_ends (ms : Binary64) (s : Session σ) : (pause ms s).outcome ≠ .unfinished := by
  rcases pause_cases ms s with ⟨_, none⟩ | ⟨_, _, ⟨slept, _⟩ | ⟨aborted, _⟩⟩
  · simp [none]
  · simp [slept]
  · simp [aborted]

/-! ## The clock -/

end Run

/-- The delay of the timer that is set. -/
def Event.timer? : Event → Option Binary64
  | .timer ms => some ms
  | _ => none

/-- The delays of the timers that are set. -/
def timers (events : List Event) : List Binary64 := events.filterMap Event.timer?

/-- What the timers take in all. -/
def slept (events : List Event) : Nat :=
  (timers events).foldr (fun ms later => Delay.effective ms + later) 0

theorem timers_append (xs ys : List Event) : timers (xs ++ ys) = timers xs ++ timers ys :=
  List.filterMap_append

theorem slept_append (xs ys : List Event) : slept (xs ++ ys) = slept xs + slept ys := by
  rw [slept, timers_append, List.foldr_append, slept, slept]
  induction timers xs with
  | nil => exact (Nat.zero_add _).symm
  | cons ms rest ih => rw [List.foldr_cons, ih, List.foldr_cons, Nat.add_assoc]

theorem timers_eq_nil {events : List Event} (none : ∀ e ∈ events, e.timer? = none) :
    timers events = [] := List.filterMap_eq_nil_iff.mpr none

theorem slept_eq_zero {events : List Event} (none : ∀ e ∈ events, e.timer? = none) :
    slept events = 0 := by
  rw [slept, timers_eq_nil none]
  rfl

theorem timers_pause {ms : Binary64} {later : List Event}
    (interrupts : ∀ e ∈ later, ∃ name, e = .interrupt name) :
    timers (.timer ms :: later) = [ms] := by
  have none : timers later = [] := timers_eq_nil fun e listed => by
    obtain ⟨name, rfl⟩ := interrupts e listed
    rfl
  rw [timers, List.filterMap_cons_some (show Event.timer? (.timer ms) = some ms from rfl)]
  exact congrArg (ms :: ·) none

namespace Run

variable {σ α : Type}

/-- A raised signal stays raised. As long as it is down, the clock moves by what the timers
take. -/
structure Clocked (s : Session σ) (events : List Event) (s' : Session σ) : Prop where
  keeps : s.signal = .raised → s'.signal = .raised
  clock : s'.signal ≠ .raised → s'.now = s.now + slept events

theorem Clocked.down {s s' : Session σ} {events : List Event} (clocked : Clocked s events s')
    (down : s'.signal ≠ .raised) : s.signal ≠ .raised := fun raised => down (clocked.keeps raised)

theorem composes_clocked : Composes (Clocked : Session σ → List Event → Session σ → Prop) where
  still _ := ⟨fun raised => raised, fun _ => rfl⟩
  line _ _ _ _ := ⟨fun raised => raised, fun _ => rfl⟩
  trans first later :=
    ⟨fun raised => later.keeps (first.keeps raised), fun down => by
      rw [later.clock down, first.clock (later.down down), slept_append, Nat.add_assoc]⟩

theorem clocked_ask {e : Event} (instant : e.timer? = none) (respond : Responder σ α) :
    Spans Clocked (ask e respond) := by
  intro s
  have idle : slept [e] = 0 := slept_eq_zero (List.forall_mem_singleton.mpr instant)
  rw [ask_events, ask_session]
  exact ⟨answered_raised, fun _ => by rw [idle, answered_now, Nat.add_zero]⟩

theorem clocked_pause (ms : Binary64) : Spans Clocked (pause ms : Run σ Unit) := by
  intro s
  rcases pause_cases ms s with ⟨raised, none⟩ | ⟨down, ⟨later, seen, interrupts⟩, ended⟩
  · rw [none]
    exact composes_clocked.still s
  · rw [seen]
    refine ⟨fun raised => absurd raised down, fun stillDown => ?_⟩
    rcases ended with ⟨_, _, now⟩ | ⟨_, raised⟩
    · rw [now, slept, timers_pause interrupts, List.foldr_cons, List.foldr_nil, Nat.add_zero]
    · exact absurd raised stillDown

end Run

end JobWatch
