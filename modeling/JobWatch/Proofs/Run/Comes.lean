import JobWatch.Proofs.Log.Logger
import JobWatch.Proofs.Run.Ends

/-!
# What runs come to

A run is described by what holds at its start, what holds when it returns and what holds when it
throws. It is not cut off. Unlike a description of runs that are not aborted, this one binds a run
whether or not the caller's signal is raised.
-/

namespace JobWatch.Run

variable {σ α β : Type} {pre : Session σ → Prop} {fails : Thrown → Session σ → Prop}

/-- A run that starts as described returns or throws as described. -/
def Comes (pre : Session σ → Prop) (x : Run σ α) (post : α → Session σ → Prop)
    (fails : Thrown → Session σ → Prop) : Prop :=
  ∀ s, pre s → (x s).outcome.Meets (fun a => post a (x s).session) fun t => fails t (x s).session

theorem comes_pure {a : α} {post : α → Session σ → Prop} (h : ∀ s, pre s → post a s) :
    Comes pre (pure a) post fails :=
  fun s holds => h s holds

theorem comes_fail {f : Failure} {post : α → Session σ → Prop}
    (h : ∀ s, pre s → fails (.failure f) s) : Comes pre (fail f) post fails :=
  fun s holds => h s holds

theorem comes_require {e : Except Failure α} {a : α} (passes : e = .ok a) :
    Comes pre (require e) (fun _ => pre) fails :=
  passes ▸ comes_pure fun _ holds => holds

section Reading

variable {x : Run σ α} {post : α → Session σ → Prop} {s : Session σ}

theorem Comes.returned (h : Comes pre x post fails) (start : pre s) {a : α}
    (came : (x s).outcome = .returned a) : post a (x s).session := by
  have met := h s start
  rw [came] at met
  exact met

theorem Comes.threw (h : Comes pre x post fails) (start : pre s) {t : Thrown}
    (came : (x s).outcome = .threw t) : fails t (x s).session := by
  have met := h s start
  rw [came] at met
  exact met

theorem Comes.ends (h : Comes pre x post fails) (start : pre s) :
    (x s).outcome ≠ .unfinished := by
  have met := h s start
  intro cut
  rw [cut] at met
  exact met

/-- What holds when a run returns and when it throws holds in any case. -/
theorem Comes.anyway {holds : Session σ → Prop} (h : Comes pre x post fails) (start : pre s)
    (hpost : ∀ a s, post a s → holds s) (hfails : ∀ t s, fails t s → holds s) :
    holds (x s).session := by
  cases came : (x s).outcome with
  | returned a => exact hpost a _ (h.returned start came)
  | threw t => exact hfails t _ (h.threw start came)
  | unfinished => exact absurd came (h.ends start)

end Reading

theorem Comes.bind {x : Run σ α} {f : α → Run σ β} {mid : α → Session σ → Prop}
    {post : β → Session σ → Prop} (hx : Comes pre x mid fails)
    (hf : ∀ a, Comes (mid a) (f a) post fails) : Comes pre (x >>= f) post fails := by
  intro s holds
  cases came : (x s).outcome with
  | returned a =>
    rw [bind_returned came]
    exact hf a _ (hx.returned holds came)
  | threw t =>
    rw [bind_threw came]
    exact hx.threw holds came
  | unfinished => exact absurd came (hx.ends holds)

theorem Comes.of_pre {x : Run σ α} {pre' : Session σ → Prop} {post : α → Session σ → Prop}
    (h : Comes pre x post fails) (hpre : ∀ s, pre' s → pre s) : Comes pre' x post fails :=
  fun s holds => h s (hpre s holds)

theorem Comes.of_post {x : Run σ α} {post post' : α → Session σ → Prop}
    (h : Comes pre x post fails) (hpost : ∀ a s, post a s → post' a s) :
    Comes pre x post' fails :=
  fun s holds => (h s holds).imp (fun a => hpost a (x s).session) fun _ failed => failed

theorem Comes.of_fails {x : Run σ α} {post : α → Session σ → Prop}
    {fails' : Thrown → Session σ → Prop} (h : Comes pre x post fails)
    (hfails : ∀ t s, fails t s → fails' t s) : Comes pre x post fails' :=
  fun s holds => (h s holds).imp (fun _ returned => returned) fun t => hfails t (x s).session

theorem Comes.of_exists {ι : Type} {pre : ι → Session σ → Prop} {x : Run σ α}
    {post : α → Session σ → Prop} (h : ∀ i, Comes (pre i) x post fails) :
    Comes (fun s => ∃ i, pre i s) x post fails :=
  fun s ⟨i, holds⟩ => h i s holds

/-- A run that is only let go on with the signal down. -/
theorem comes_throwIfAborted (aborted : ∀ s, pre s → s.signal = .raised →
      fails (.failure .aborted) s) :
    Comes pre throwIfAborted (fun _ s => pre s ∧ s.signal ≠ .raised) fails := by
  intro s holds
  by_cases raised : s.signal = .raised
  · simpa [throwIfAborted, raised, Outcome.Meets] using aborted s holds raised
  · simpa [throwIfAborted, raised, Outcome.Meets] using holds

theorem comes_log (l : Log.Logger) (level : Log.Level) (message : String)
    (details : List Detail) : Comes pre (l.log level message details) (fun _ => pre) fails := by
  intro s holds
  rw [Log.Logger.log_line]
  exact holds

/-! ## Runs that are never cut off -/

/-- The run returns or throws. -/
def Concludes (x : Run σ α) : Prop := Comes (fun _ => True) x (fun _ _ => True) fun _ _ => True

theorem Concludes.ends {x : Run σ α} (h : Concludes x) (s : Session σ) :
    (x s).outcome ≠ .unfinished := Comes.ends h trivial

theorem concludes_of_ne {x : Run σ α} (h : ∀ s, (x s).outcome ≠ .unfinished) : Concludes x := by
  intro s _
  cases came : (x s).outcome with
  | returned a => trivial
  | threw t => trivial
  | unfinished => exact absurd came (h s)

theorem Concludes.bind {x : Run σ α} {f : α → Run σ β} (hx : Concludes x)
    (hf : ∀ a, Concludes (f a)) : Concludes (x >>= f) := Comes.bind hx hf

theorem concludes_pure (a : α) : Concludes (pure a : Run σ α) := comes_pure fun _ _ => trivial

theorem concludes_fail (f : Failure) : Concludes (fail f : Run σ α) := comes_fail fun _ _ => trivial

theorem concludes_require (e : Except Failure α) : Concludes (require e : Run σ α) := by
  cases e with
  | ok a => exact concludes_pure a
  | error f => exact concludes_fail f

theorem concludes_log (l : Log.Logger) (level : Log.Level) (message : String)
    (details : List Detail) : Concludes (l.log level message details : Run σ Unit) :=
  comes_log l level message details

end JobWatch.Run
