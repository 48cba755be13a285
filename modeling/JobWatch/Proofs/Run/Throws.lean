import JobWatch.Proofs.Run.Comes
import JobWatch.Proofs.Run.Spans

/-!
# What runs throw

A run is described by what it throws if it throws, wherever it starts. Whether it returns, throws
or is cut off is left open, so the description fits runs that may never end.
-/

namespace JobWatch

namespace Run

variable {σ α β : Type} {fails : Thrown → Prop}

/-- Whatever the run throws is described. -/
def Throws (fails : Thrown → Prop) (x : Run σ α) : Prop :=
  ∀ s t, (x s).outcome = .threw t → fails t

theorem throws_of_returns {x : Run σ α} (returns : ∀ s, ∃ a, (x s).outcome = .returned a) :
    Throws fails x := by
  intro s t threw
  obtain ⟨a, came⟩ := returns s
  cases came.symm.trans threw

theorem throws_pure (a : α) : Throws fails (pure a : Run σ α) :=
  throws_of_returns fun _ => ⟨a, rfl⟩

theorem throws_session : Throws fails (session : Run σ (Session σ)) :=
  throws_of_returns fun s => ⟨s, rfl⟩

theorem throws_now : Throws fails (now : Run σ Nat) := throws_of_returns fun s => ⟨s.now, rfl⟩

theorem throws_emit (e : Event) : Throws fails (emit e : Run σ Unit) :=
  throws_of_returns fun _ => ⟨(), rfl⟩

theorem throws_modify (f : Session σ → Session σ) : Throws fails (modify f) :=
  throws_of_returns fun _ => ⟨(), rfl⟩

theorem throws_throw {t : Thrown} (h : fails t) : Throws fails (throw t : Run σ α) := by
  intro s t' threw
  cases threw
  exact h

theorem throws_fail {f : Failure} (h : fails (.failure f)) : Throws fails (fail f : Run σ α) :=
  throws_throw h

theorem throws_require {e : Except Failure α} (h : ∀ f, e = .error f → fails (.failure f)) :
    Throws fails (require e : Run σ α) := by
  cases e with
  | ok a => exact throws_pure a
  | error f => exact throws_fail (h f rfl)

theorem throws_unfinished : Throws fails (unfinished : Run σ α) := by
  intro s t threw
  cases threw

theorem throws_log (l : Log.Logger) (level : Log.Level) (message : String)
    (details : List Detail) : Throws fails (l.log level message details : Run σ Unit) :=
  throws_of_returns fun s => ⟨(), log_returned s⟩

/-- What a sequence throws one of its parts has thrown. -/
theorem threw_of_bind {x : Run σ α} {f : α → Run σ β} {s : Session σ} {t : Thrown}
    (threw : ((x >>= f) s).outcome = .threw t) :
    (x s).outcome = .threw t ∨
      ∃ a, (x s).outcome = .returned a ∧ (f a (x s).session).outcome = .threw t := by
  cases came : (x s).outcome with
  | returned a =>
    rw [bind_returned came] at threw
    exact Or.inr ⟨a, rfl, threw⟩
  | threw t' =>
    rw [bind_threw came] at threw
    cases threw
    exact Or.inl rfl
  | unfinished =>
    rw [bind_unfinished came] at threw
    cases threw

/-- What comes second need only be described where the first part leads. -/
theorem Throws.bind_of_returned {x : Run σ α} {f : α → Run σ β} (hx : Throws fails x)
    (hf : ∀ s a, (x s).outcome = .returned a → Throws fails (f a)) : Throws fails (x >>= f) := by
  intro s t threw
  rcases threw_of_bind threw with first | ⟨a, came, later⟩
  · exact hx s t first
  · exact hf s a came _ t later

theorem Throws.bind {x : Run σ α} {f : α → Run σ β} (hx : Throws fails x)
    (hf : ∀ a, Throws fails (f a)) : Throws fails (x >>= f) :=
  hx.bind_of_returned fun _ a _ => hf a

theorem throws_attempt (x : Run σ α) : Throws fails x.attempt := by
  intro s t threw
  cases came : (x s).outcome with
  | returned a => cases (attempt_returned came).symm.trans threw
  | threw t' => cases (attempt_threw came).symm.trans threw
  | unfinished => cases (attempt_unfinished came).symm.trans threw

theorem threw_of_attempt {x : Run σ α} {s : Session σ} {t : Thrown}
    (h : (x.attempt s).outcome = .returned (.error t)) : (x s).outcome = .threw t := by
  cases came : (x s).outcome with
  | returned a => cases (attempt_returned came).symm.trans h
  | threw t' =>
    cases (attempt_threw came).symm.trans h
    rfl
  | unfinished => cases (attempt_unfinished came).symm.trans h

theorem Throws.ensuring {x : Run σ α} {cleanup : Run σ Unit} (hx : Throws fails x)
    (hcleanup : Throws fails cleanup) : Throws fails (x.ensuring cleanup) := by
  refine (throws_attempt x).bind_of_returned fun s result tried => hcleanup.bind fun _ => ?_
  cases result with
  | ok a => exact throws_pure a
  | error t => exact throws_throw (hx s t (threw_of_attempt tried))

/-- A run that is never cut off comes to something if it is known what it throws. -/
theorem Throws.comes {pre : Session σ → Prop} {x : Run σ α} (h : Throws fails x)
    (ends : Concludes x) : Comes pre x (fun _ _ => True) fun t _ => fails t := by
  intro s _
  cases came : (x s).outcome with
  | returned a => trivial
  | threw t => exact h s t came
  | unfinished => exact ends.ends s came

theorem Comes.throws {post : α → Session σ → Prop} {x : Run σ α}
    (h : Comes (fun _ => True) x post fun t _ => fails t) : Throws fails x :=
  fun _ _ threw => Comes.threw h trivial threw

theorem throws_throwIfAborted (aborted : fails (.failure .aborted)) :
    Throws fails (throwIfAborted : Run σ Unit) := by
  intro s t threw
  by_cases raised : s.signal = .raised
  · rw [throwIfAborted, if_pos raised] at threw
    cases threw
    exact aborted
  · rw [throwIfAborted, if_neg raised] at threw
    cases threw

theorem throws_pause (aborted : fails (.failure .aborted)) (ms : Binary64) :
    Throws fails (pause ms : Run σ Unit) := by
  intro s t threw
  rcases pause_cases ms s with ⟨_, none⟩ | ⟨_, _, ⟨slept, _⟩ | ⟨came, _⟩⟩
  · rw [none] at threw
    cases threw
    exact aborted
  · cases slept.symm.trans threw
  · cases came.symm.trans threw
    exact aborted

end Run

end JobWatch
