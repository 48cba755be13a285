import JobWatch.Proofs.Run.Mirrors
import JobWatch.Proofs.Run.Spans

/-!
# Runs beside a ledger

The trail of a run does not tell when the caller's signal was raised. Here a run is carried out
beside a ledger in which each query of the backend is noted at its start, together with the
signal as it is then. The ledger is out of the run's reach, and erasing it gives the plain run
back. What a query answers, and whether it raises the signal, is left open.
-/

namespace JobWatch

/-- A query at its start. -/
structure Query where
  call : BackendCall
  signal : Signal
deriving DecidableEq, Repr

/-- The queries that were started under a raised signal. -/
def late (ledger : List Query) : List Query := ledger.filter fun q => q.signal = .raised

theorem late_nil : late [] = [] := rfl

theorem late_eq_nil_iff {ledger : List Query} :
    late ledger = [] ↔ ∀ q ∈ ledger, q.signal ≠ .raised := by
  simp [late, List.filter_eq_nil_iff]

theorem late_concat (ledger : List Query) (q : Query) :
    late (ledger ++ [q]) = if q.signal = .raised then late ledger ++ [q] else late ledger := by
  by_cases raised : q.signal = .raised <;> simp [late, raised]

/-- What stands outside a run, and the queries started so far. -/
structure Audited (σ : Type) where
  outside : σ
  ledger : List Query

namespace Session

variable {σ : Type}

def audited (s : Session σ) (ledger : List Query) : Session (Audited σ) :=
  ⟨s.now, s.signal, s.alarms, s.listening, s.files, ⟨s.outside, ledger⟩⟩

def unaudited (s : Session (Audited σ)) : Session σ :=
  ⟨s.now, s.signal, s.alarms, s.listening, s.files, s.outside.outside⟩

end Session

namespace Run

variable {σ α β : Type}

/-- The run beside a ledger. -/
def audited (x : Run σ α) : Run (Audited σ) α := fun s =>
  let r := x s.unaudited
  ⟨r.outcome, r.events, r.session.audited s.outside.ledger⟩

/-- A query beside a ledger, in which it is noted at its start. -/
def noted (call : BackendCall) (x : Run σ α) : Run (Audited σ) α := fun s =>
  let r := x s.unaudited
  ⟨r.outcome, r.events, r.session.audited (s.outside.ledger ++ [⟨call, s.signal⟩])⟩

/-! ## Erasing the ledger -/

/-- The run beside a ledger does what the plain run does. -/
def Shadows (x' : Run (Audited σ) α) (x : Run σ α) : Prop :=
  ∀ s, (x' s).outcome = (x s.unaudited).outcome ∧ (x' s).events = (x s.unaudited).events ∧
    (x' s).session.unaudited = (x s.unaudited).session

theorem shadows_audited (x : Run σ α) : Shadows x.audited x := fun _ => ⟨rfl, rfl, rfl⟩

theorem shadows_noted (call : BackendCall) (x : Run σ α) : Shadows (noted call x) x :=
  fun _ => ⟨rfl, rfl, rfl⟩

theorem erases_unaudited : Erases (Session.unaudited : Session (Audited σ) → Session σ) :=
  ⟨fun _ => rfl, fun _ => rfl⟩

/-! ## Late queries -/

/-- The run starts no query under a raised signal. -/
def StartsNoneLate (x : Run (Audited σ) α) : Prop :=
  ∀ s, late (x s).session.outside.ledger = late s.outside.ledger

/-- Starting none late composes. -/
theorem composes_startsNoneLate : Composes fun (s : Session (Audited σ)) _ s' =>
    late s'.outside.ledger = late s.outside.ledger where
  still _ := rfl
  line _ _ _ _ := rfl
  trans first later := later.trans first

theorem startsNoneLate_audited (x : Run σ α) : StartsNoneLate x.audited := fun _ => rfl

/-- A query right after a check of the signal is never late. -/
theorem startsNoneLate_guarded (call : BackendCall) (x : Run σ α) :
    StartsNoneLate (do throwIfAborted; noted call x) := by
  intro s
  rw [throwIfAborted_bind]
  by_cases raised : s.signal = .raised
  · rw [if_pos raised]
  · rw [if_neg raised]
    exact (late_concat s.outside.ledger ⟨call, s.signal⟩).trans (if_neg raised)

/-- What follows a query does not matter for the late ones if it starts none itself. -/
theorem late_noted_bind {call : BackendCall} {x : Run σ α} {f : α → Run (Audited σ) β}
    (hf : ∀ a, StartsNoneLate (f a)) (s : Session (Audited σ)) :
    late ((noted call x >>= f) s).session.outside.ledger =
      late (s.outside.ledger ++ [⟨call, s.signal⟩]) := by
  cases h : (noted call x s).outcome with
  | returned a =>
    rw [bind_returned h]
    exact hf a (noted call x s).session
  | threw t =>
    rw [bind_threw h]
    rfl
  | unfinished =>
    rw [bind_unfinished h]
    rfl

end Run

end JobWatch
