import JobWatch.Log.Logger
import JobWatch.Proofs.Run.Laws

/-!
# Runs beside a record

A run may be carried out beside a record of what it does. If the record is out of its reach, then
leaving it out gives the plain run back: the two come to the same, with the same trail, and end in
sessions that differ by the record alone. This holds of a sequence if it holds of the parts.
-/

namespace JobWatch.Run

variable {σ τ α β : Type}

/-- Leaving something out of sessions changes neither their clock nor their signal. -/
structure Erases (plain : Session τ → Session σ) : Prop where
  now : ∀ s, (plain s).now = s.now
  signal : ∀ s, (plain s).signal = s.signal

/-- A run that does what another one does when something is left out of its sessions. -/
def Mirrors (plain : Session τ → Session σ) (x' : Run τ α) (x : Run σ α) : Prop :=
  ∀ s, (x' s).outcome = (x (plain s)).outcome ∧ (x' s).events = (x (plain s)).events ∧
    plain (x' s).session = (x (plain s)).session

variable {plain : Session τ → Session σ}

theorem erases_id : Erases (id : Session σ → Session σ) := ⟨fun _ => rfl, fun _ => rfl⟩

theorem mirrors_id (x : Run σ α) : Mirrors id x x := fun _ => ⟨rfl, rfl, rfl⟩

/-- With nothing left out, a run does what the other one does. -/
theorem Mirrors.eq {x' x : Run σ α} (same : Mirrors id x' x) : x' = x := by
  funext s
  obtain ⟨outcome, events, session⟩ := same s
  have whole : x' s = ⟨(x' s).outcome, (x' s).events, (x' s).session⟩ := rfl
  rw [whole, outcome, events]
  exact congrArg (Result.mk _ _) session

theorem mirrors_pure (a : α) : Mirrors plain (pure a : Run τ α) (pure a) := fun _ => ⟨rfl, rfl, rfl⟩

theorem mirrors_fail (f : Failure) : Mirrors plain (fail f : Run τ α) (fail f) :=
  fun _ => ⟨rfl, rfl, rfl⟩

theorem mirrors_unfinished : Mirrors plain (unfinished : Run τ α) unfinished :=
  fun _ => ⟨rfl, rfl, rfl⟩

theorem mirrors_require (e : Except Failure α) :
    Mirrors plain (require e : Run τ α) (require e) := by
  cases e with
  | ok a => exact mirrors_pure a
  | error f => exact mirrors_fail f

theorem mirrors_emit (e : Event) : Mirrors plain (emit e : Run τ Unit) (emit e) :=
  fun _ => ⟨rfl, rfl, rfl⟩

theorem Mirrors.bind {x' : Run τ α} {x : Run σ α} {f' : α → Run τ β} {f : α → Run σ β}
    (hx : Mirrors plain x' x) (hf : ∀ a, Mirrors plain (f' a) (f a)) :
    Mirrors plain (x' >>= f') (x >>= f) := by
  intro s
  obtain ⟨outcome, events, session⟩ := hx s
  cases h : (x (plain s)).outcome with
  | returned a =>
    obtain ⟨outcome', events', session'⟩ := hf a (x' s).session
    rw [session] at outcome' events' session'
    rw [bind_returned h, bind_returned (outcome.trans h)]
    exact ⟨outcome', by rw [events, events'], session'⟩
  | threw t =>
    rw [bind_threw h, bind_threw (outcome.trans h)]
    exact ⟨rfl, events, session⟩
  | unfinished =>
    rw [bind_unfinished h, bind_unfinished (outcome.trans h)]
    exact ⟨rfl, events, session⟩

theorem mirrors_now (erases : Erases plain) : Mirrors plain (now : Run τ Nat) now :=
  fun s => ⟨congrArg Outcome.returned (erases.now s).symm, rfl, rfl⟩

theorem mirrors_throwIfAborted (erases : Erases plain) :
    Mirrors plain (throwIfAborted : Run τ Unit) throwIfAborted := by
  intro s
  by_cases raised : s.signal = .raised
  · simp [throwIfAborted, erases.signal, raised]
  · simp [throwIfAborted, erases.signal, raised]

theorem mirrors_log (erases : Erases plain) (l : Log.Logger) (level : Log.Level)
    (message : String) (details : List Detail) :
    Mirrors plain (l.log level message details : Run τ Unit) (l.log level message details) := by
  unfold Log.Logger.log
  split
  · exact (mirrors_now erases).bind fun _ => mirrors_emit _
  · exact mirrors_pure ()

end JobWatch.Run
