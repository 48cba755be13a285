import JobWatch.Proofs.Log.Logger
import JobWatch.Proofs.Run.Ends

/-!
# What runs keep

An invariant speaks of the calls made to the broker so far and of those outside. A run keeps it if
it holds again when the run is over, whether the run returns, throws or is cut off; so a sequence
keeps what its parts keep, wherever it ends. Nothing is said about the time in between. A run that
calls no broker and leaves those outside alone keeps every invariant.
-/

namespace JobWatch

def Event.brokerCall? : Event → Option BrokerCall
  | .broker call => some call
  | _ => none

/-- The calls to the broker in a trail. -/
def brokerCalls (events : List Event) : List BrokerCall := events.filterMap Event.brokerCall?

@[simp] theorem brokerCalls_nil : brokerCalls [] = [] := rfl

@[simp] theorem brokerCalls_append (xs ys : List Event) :
    brokerCalls (xs ++ ys) = brokerCalls xs ++ brokerCalls ys := List.filterMap_append

@[simp] theorem brokerCalls_broker (call : BrokerCall) (events : List Event) :
    brokerCalls (.broker call :: events) = call :: brokerCalls events := rfl

/-- What was returned, if anything was. -/
def Outcome.returned? {α : Type} : Outcome α → Option α
  | returned a => some a
  | _ => none

theorem Outcome.returned?_eq_some {α : Type} {o : Outcome α} {a : α} :
    o.returned? = some a ↔ o = .returned a := by
  cases o <;> simp [returned?]

/-- What was thrown, if anything was. -/
def Outcome.thrown? {α : Type} : Outcome α → Option Thrown
  | threw t => some t
  | _ => none

namespace Run

variable {σ α β : Type} {I : List BrokerCall → σ → Prop}

/-- A part that has returned leaves the rest of the sequence to run from where it has ended. -/
theorem returned_of_bind {x : Run σ α} {f : α → Run σ β} {s : Session σ} {b : β}
    (h : ((x >>= f) s).outcome = .returned b) :
    ∃ a, (x s).outcome = .returned a ∧ (f a (x s).session).outcome = .returned b ∧
      ((x >>= f) s).session = (f a (x s).session).session := by
  cases out : (x s).outcome with
  | returned a =>
    rw [bind_returned out] at h ⊢
    exact ⟨a, rfl, h, rfl⟩
  | threw t =>
    rw [bind_threw out] at h
    cases h
  | unfinished =>
    rw [bind_unfinished out] at h
    cases h

/-- If the invariant holds of the calls made so far, it holds when the run is over. -/
def Keeps (I : List BrokerCall → σ → Prop) (x : Run σ α) : Prop :=
  ∀ past s, I past s.outside → I (past ++ brokerCalls (x s).events) (x s).session.outside

theorem keeps_of_silent {x : Run σ α} (silent : ∀ s, brokerCalls (x s).events = [])
    (outside : ∀ s, (x s).session.outside = s.outside) : Keeps I x := by
  intro past s holds
  rw [silent, outside, List.append_nil]
  exact holds

theorem Keeps.bind {x : Run σ α} {f : α → Run σ β} (hx : Keeps I x) (hf : ∀ a, Keeps I (f a)) :
    Keeps I (x >>= f) := by
  intro past s holds
  have first := hx past s holds
  cases out : (x s).outcome with
  | returned a =>
    rw [bind_returned out, brokerCalls_append, ← List.append_assoc]
    exact hf a _ _ first
  | threw t =>
    rw [bind_threw out]
    exact first
  | unfinished =>
    rw [bind_unfinished out]
    exact first

/-- A sequence makes the calls of its first part, and those of the second if it gets there. -/
theorem bind_calls (x : Run σ α) (f : α → Run σ β) (s : Session σ) :
    brokerCalls ((x >>= f) s).events = brokerCalls (x s).events ∨
      ∃ a s', brokerCalls ((x >>= f) s).events =
        brokerCalls (x s).events ++ brokerCalls (f a s').events := by
  cases out : (x s).outcome with
  | returned a =>
    rw [bind_returned out, brokerCalls_append]
    exact Or.inr ⟨a, _, rfl⟩
  | threw t => exact Or.inl (by rw [bind_threw out])
  | unfinished => exact Or.inl (by rw [bind_unfinished out])

theorem bind_calls_of_silent {x : Run σ α} {f : α → Run σ β} {s : Session σ}
    (silent : ∀ a s, brokerCalls (f a s).events = []) :
    brokerCalls ((x >>= f) s).events = brokerCalls (x s).events := by
  rcases bind_calls x f s with same | ⟨a, s', more⟩
  · exact same
  · rw [more, silent, List.append_nil]

theorem attempt_returned {x : Run σ α} {s : Session σ} {a : α}
    (h : (x s).outcome = .returned a) : (x.attempt s).outcome = .returned (.ok a) := by
  simp only [attempt, h]

theorem attempt_threw {x : Run σ α} {s : Session σ} {t : Thrown} (h : (x s).outcome = .threw t) :
    (x.attempt s).outcome = .returned (.error t) := by
  simp only [attempt, h]

theorem attempt_unfinished {x : Run σ α} {s : Session σ} (h : (x s).outcome = .unfinished) :
    (x.attempt s).outcome = .unfinished := by
  simp only [attempt, h]

/-- An attempt comes to an answer unless it is cut off. -/
theorem attempt_ends {x : Run σ α} {s : Session σ} (ended : (x s).outcome ≠ .unfinished) :
    ∃ result, (x.attempt s).outcome = .returned result := by
  cases came : (x s).outcome with
  | returned a => exact ⟨_, attempt_returned came⟩
  | threw t => exact ⟨_, attempt_threw came⟩
  | unfinished => exact absurd came ended

theorem returned_of_attempt {x : Run σ α} {s : Session σ} {a : α}
    (h : (x.attempt s).outcome = .returned (.ok a)) : (x s).outcome = .returned a := by
  cases came : (x s).outcome with
  | returned a' =>
    rw [attempt_returned came] at h
    cases h
    rfl
  | threw t =>
    rw [attempt_threw came] at h
    cases h
  | unfinished =>
    rw [attempt_unfinished came] at h
    cases h

theorem attempt_events (x : Run σ α) (s : Session σ) : (x.attempt s).events = (x s).events := by
  unfold Run.attempt
  cases h : (x s).outcome <;> simp only [h]

theorem Keeps.attempt {x : Run σ α} (h : Keeps I x) : Keeps I x.attempt := by
  intro past s holds
  rw [attempt_events, attempt_session]
  exact h past s holds

/-- All calls of a trail are of a kind. -/
def Only (kind : BrokerCall → Prop) (past : List BrokerCall) (_ : σ) : Prop := ∀ c ∈ past, kind c

theorem Keeps.calls_of_only {kind : BrokerCall → Prop} {x : Run σ α} (h : Keeps (Only kind) x)
    (s : Session σ) : ∀ c ∈ brokerCalls (x s).events, kind c :=
  h [] s fun _ listed => absurd listed List.not_mem_nil

/-! ## Quiet runs -/

/-- The run has nothing to do with the broker or with those outside. -/
def Quiet (x : Run σ α) : Prop := ∀ I : List BrokerCall → σ → Prop, Keeps I x

theorem Quiet.calls {x : Run σ α} (h : Quiet x) (s : Session σ) :
    brokerCalls (x s).events = [] :=
  h (fun past _ => past = []) [] s rfl

theorem Quiet.outside {x : Run σ α} (h : Quiet x) (s : Session σ) :
    (x s).session.outside = s.outside :=
  h (fun _ w => w = s.outside) [] s rfl

theorem Quiet.bind {x : Run σ α} {f : α → Run σ β} (hx : Quiet x) (hf : ∀ a, Quiet (f a)) :
    Quiet (x >>= f) :=
  fun I => (hx I).bind fun a => hf a I

theorem quiet_pure (a : α) : Quiet (pure a : Run σ α) :=
  fun _ => keeps_of_silent (fun _ => rfl) fun _ => rfl

theorem quiet_throw (t : Thrown) : Quiet (throw t : Run σ α) :=
  fun _ => keeps_of_silent (fun _ => rfl) fun _ => rfl

theorem quiet_fail (f : Failure) : Quiet (fail f : Run σ α) := quiet_throw _

theorem quiet_require (e : Except Failure α) : Quiet (require e : Run σ α) := by
  cases e with
  | ok a => exact quiet_pure a
  | error f => exact quiet_fail f

theorem quiet_session : Quiet (session : Run σ (Session σ)) :=
  fun _ => keeps_of_silent (fun _ => rfl) fun _ => rfl

theorem quiet_outside : Quiet (outside : Run σ σ) :=
  fun _ => keeps_of_silent (fun _ => rfl) fun _ => rfl

theorem quiet_now : Quiet (now : Run σ Nat) :=
  fun _ => keeps_of_silent (fun _ => rfl) fun _ => rfl

theorem quiet_modify {f : Session σ → Session σ} (same : ∀ s, (f s).outside = s.outside) :
    Quiet (modify f) :=
  fun _ => keeps_of_silent (fun _ => rfl) same

theorem quiet_emit {e : Event} (h : e.brokerCall? = none) : Quiet (emit e : Run σ Unit) :=
  fun _ => keeps_of_silent (fun _ => List.filterMap_cons_none h) fun _ => rfl

theorem quiet_throwIfAborted : Quiet (throwIfAborted : Run σ Unit) := by
  refine fun _ => keeps_of_silent (fun s => ?_) fun s => ?_
  · unfold throwIfAborted
    split <;> rfl
  · unfold throwIfAborted
    split <;> rfl

theorem quiet_log {l : Log.Logger} {level : Log.Level} {message : String}
    {details : List Detail} : Quiet (l.log level message details : Run σ Unit) := by
  unfold Log.Logger.log
  split
  · exact quiet_now.bind fun _ => quiet_emit rfl
  · exact quiet_pure ()

theorem log_returned {l : Log.Logger} {level : Log.Level} {message : String}
    {details : List Detail} (s : Session σ) :
    (l.log level message details s).outcome = .returned () := by
  rw [Log.Logger.log_line]

/-- Whatever goes off while a run waits, the broker is not called. -/
theorem ring_calls (s : Session σ) (a : Alarm) : brokerCalls (s.ring a).2 = [] := by
  cases a with
  | abort => rfl
  | interrupt name =>
    by_cases heard : name ∈ s.listening
    · rw [Session.ring, if_pos heard]
      rfl
    · rw [Session.ring, if_neg heard]
      rfl

theorem quiet_waitUntil {heed : Run σ Unit} (h : Quiet heed) (due alarms : Nat) :
    Quiet (waitUntil heed due alarms) := by
  induction alarms with
  | zero => exact quiet_modify fun _ => rfl
  | succ alarms ih =>
    have rest := h.bind fun _ => ih
    refine fun _ => keeps_of_silent (fun s => ?_) fun s => ?_
    · unfold waitUntil
      split
      · rfl
      · exact (brokerCalls_append _ _).trans (by rw [ring_calls, rest.calls, List.append_nil])
    · unfold waitUntil
      split
      · rfl
      · exact (rest.outside _).trans (ring_outside _ _)

theorem quiet_pause (ms : Binary64) : Quiet (pause ms : Run σ Unit) :=
  quiet_throwIfAborted.bind fun _ => (quiet_emit rfl).bind fun _ => quiet_session.bind fun _ =>
    quiet_waitUntil quiet_throwIfAborted _ _

/-! ## Cleaning up -/

theorem ensuring_of_unfinished {x : Run σ α} (cleanup : Run σ Unit) {s : Session σ}
    (endless : (x s).outcome = .unfinished) : ((x.ensuring cleanup) s).outcome = .unfinished := by
  rw [ensuring, bind_unfinished (attempt_unfinished endless)]

theorem bind_ofExcept (cleanup : Run σ Unit) (result : Except Thrown α) (s : Session σ) :
    ((do cleanup; ofExcept result) s).events = (cleanup s).events ∧
      ((do cleanup; ofExcept result) s).session = (cleanup s).session := by
  cases came : (cleanup s).outcome with
  | returned u =>
    rw [bind_returned came]
    cases result <;> exact ⟨List.append_nil _, rfl⟩
  | threw t =>
    rw [bind_threw came]
    exact ⟨rfl, rfl⟩
  | unfinished =>
    rw [bind_unfinished came]
    exact ⟨rfl, rfl⟩

/-- A cleanup follows on what it comes after, however that has ended. -/
theorem ensuring_trail {x : Run σ α} (cleanup : Run σ Unit) {s : Session σ}
    (ended : (x s).outcome ≠ .unfinished) :
    ((x.ensuring cleanup) s).events = (x s).events ++ (cleanup (x s).session).events ∧
      ((x.ensuring cleanup) s).session = (cleanup (x s).session).session := by
  obtain ⟨result, came⟩ := attempt_ends ended
  obtain ⟨events, session⟩ := bind_ofExcept cleanup result (x s).session
  rw [ensuring, bind_returned came, attempt_events, attempt_session]
  exact ⟨congrArg _ events, session⟩

/-- A cleanup that has not failed leaves what it comes after. -/
theorem ensuring_of_returned {x : Run σ α} {cleanup : Run σ Unit} {s : Session σ}
    (cleaned : (cleanup (x s).session).outcome = .returned ()) :
    ((x.ensuring cleanup) s).outcome = (x s).outcome := by
  rw [← attempt_session] at cleaned
  cases came : (x s).outcome with
  | returned a =>
    rw [ensuring, bind_returned (attempt_returned came), bind_returned cleaned]
    rfl
  | threw t =>
    rw [ensuring, bind_returned (attempt_threw came), bind_returned cleaned]
    rfl
  | unfinished => exact ensuring_of_unfinished cleanup came

/-- A cleanup that has failed takes the place of what it comes after. -/
theorem ensuring_of_threw {x : Run σ α} {cleanup : Run σ Unit} {s : Session σ} {t : Thrown}
    (ended : (x s).outcome ≠ .unfinished)
    (failed : (cleanup (x s).session).outcome = .threw t) :
    ((x.ensuring cleanup) s).outcome = .threw t := by
  rw [← attempt_session] at failed
  cases came : (x s).outcome with
  | returned a => rw [ensuring, bind_returned (attempt_returned came), bind_threw failed]
  | threw t => rw [ensuring, bind_returned (attempt_threw came), bind_threw failed]
  | unfinished => exact absurd came ended

theorem ensuring_ends {x : Run σ α} {cleanup : Run σ Unit} {s : Session σ}
    (ended : (x s).outcome ≠ .unfinished)
    (cleaned : (cleanup (x s).session).outcome ≠ .unfinished) :
    ((x.ensuring cleanup) s).outcome ≠ .unfinished := by
  cases came : (cleanup (x s).session).outcome with
  | returned u => rwa [ensuring_of_returned came]
  | threw t => simp [ensuring_of_threw ended came]
  | unfinished => exact absurd came cleaned

end Run

end JobWatch
