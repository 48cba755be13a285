import JobWatch.Run.Pause

/-!
# Laws of runs

Sequencing runs is associative, because the trail of a run is what the run itself adds. What a
sequence comes to is decided by its first part unless that part returns.
-/

namespace JobWatch

/-- What is returned, changed. -/
def Outcome.map {α β : Type} (g : α → β) : Outcome α → Outcome β
  | returned a => returned (g a)
  | threw t => threw t
  | unfinished => unfinished

theorem Outcome.map_map {α β γ : Type} (g : α → β) (h : β → γ) (o : Outcome α) :
    (o.map g).map h = o.map fun a => h (g a) := by
  cases o <;> rfl

theorem Outcome.eq_threw_of_map {α β : Type} {g : α → β} {o : Outcome α} {t : Thrown}
    (h : o.map g = .threw t) : o = .threw t := by
  cases o with
  | returned a => cases h
  | threw t' =>
    cases h
    rfl
  | unfinished => cases h

namespace Run

variable {σ α β : Type}

theorem bind_returned {x : Run σ α} {f : α → Run σ β} {s : Session σ} {a : α}
    (h : (x s).outcome = .returned a) :
    (x >>= f) s =
      ⟨(f a (x s).session).outcome, (x s).events ++ (f a (x s).session).events,
        (f a (x s).session).session⟩ := by
  simp only [Bind.bind, Run.bind, h]

theorem bind_threw {x : Run σ α} {f : α → Run σ β} {s : Session σ} {t : Thrown}
    (h : (x s).outcome = .threw t) : (x >>= f) s = ⟨.threw t, (x s).events, (x s).session⟩ := by
  simp only [Bind.bind, Run.bind, h]

theorem bind_unfinished {x : Run σ α} {f : α → Run σ β} {s : Session σ}
    (h : (x s).outcome = .unfinished) :
    (x >>= f) s = ⟨.unfinished, (x s).events, (x s).session⟩ := by
  simp only [Bind.bind, Run.bind, h]

/-- Of its first part a sequence sees nothing but what that comes to here. -/
theorem bind_of_eq {x y : Run σ α} {s : Session σ} (same : x s = y s) (f : α → Run σ β) :
    (x >>= f) s = (y >>= f) s := by
  simp only [Bind.bind, Run.bind, same]

theorem pure_apply (a : α) (s : Session σ) :
    (Pure.pure a : Run σ α) s = ⟨.returned a, [], s⟩ := rfl

instance : LawfulMonad (Run σ) := LawfulMonad.mk' (Run σ)
  (by
    intro α x
    funext s
    change (x >>= fun a => Pure.pure a) s = x s
    cases h : (x s).outcome with
    | returned a =>
      rw [bind_returned h, pure_apply, List.append_nil, ← h]
    | threw t => rw [bind_threw h, ← h]
    | unfinished => rw [bind_unfinished h, ← h])
  (by
    intro α β a f
    funext s
    exact bind_returned (x := Pure.pure a) rfl)
  (by
    intro α β γ x f g
    funext s
    cases h : (x s).outcome with
    | returned a =>
      rw [bind_returned h]
      cases h' : (f a (x s).session).outcome with
      | returned b =>
        rw [bind_returned h', bind_returned (by rw [bind_returned h]; exact h'), bind_returned h]
        simp only [List.append_assoc]
      | threw t =>
        rw [bind_threw h', bind_threw (by rw [bind_returned h]; exact h'), bind_returned h]
      | unfinished =>
        rw [bind_unfinished h', bind_unfinished (by rw [bind_returned h]; exact h'),
          bind_returned h]
    | threw t => rw [bind_threw h, bind_threw (by rw [bind_threw h]), bind_threw h]
    | unfinished =>
      rw [bind_unfinished h, bind_unfinished (by rw [bind_unfinished h]), bind_unfinished h])

/-- What is made of an answer changes nothing but what is returned. -/
theorem map_apply (g : α → β) (x : Run σ α) (s : Session σ) :
    (do return g (← x) : Run σ β) s = ⟨(x s).outcome.map g, (x s).events, (x s).session⟩ := by
  cases h : (x s).outcome with
  | returned a =>
    rw [bind_returned h, pure_apply, List.append_nil]
    rfl
  | threw t =>
    rw [bind_threw h]
    rfl
  | unfinished =>
    rw [bind_unfinished h]
    rfl

theorem session_bind (f : Session σ → Run σ α) (s : Session σ) :
    (session >>= f) s = f s s := rfl

theorem throwIfAborted_bind (f : Unit → Run σ α) (s : Session σ) :
    (throwIfAborted >>= f) s =
      if s.signal = .raised then ⟨.threw (.failure .aborted), [], s⟩ else f () s := by
  by_cases raised : s.signal = .raised
  · rw [bind_threw (t := .failure .aborted) (by simp [throwIfAborted, raised]), if_pos raised]
    simp [throwIfAborted, raised]
  · have goes : throwIfAborted s = ⟨.returned (), [], s⟩ := by simp [throwIfAborted, raised]
    rw [bind_returned (by rw [goes]), goes, if_neg raised, List.nil_append]

theorem require_ok_bind (a : α) (f : α → Run σ β) : (require (.ok a) >>= f) = f a :=
  pure_bind a f

theorem require_error_bind (e : Failure) (f : α → Run σ β) (s : Session σ) :
    ((require (.error e) : Run σ α) >>= f) s = ⟨.threw (.failure e), [], s⟩ := rfl

theorem attempt_session (x : Run σ α) (s : Session σ) :
    (x.attempt s).session = (x s).session := by
  unfold Run.attempt
  cases h : (x s).outcome <;> simp only [h]

end Run

end JobWatch
