import JobWatch.Log.Logger
import JobWatch.Proofs.Run.Laws

/-!
# How runs end

A run is described by what holds at its start and what holds when it returns or throws. The
description binds only runs at whose end the caller's signal is not raised, and no run is allowed
to lower it; so it holds of a sequence as soon as it holds of the parts, wherever an abort falls.
-/

namespace JobWatch

/-- A run came to something described, and was not cut off. -/
def Outcome.Meets {α : Type} (returns : α → Prop) (fails : Thrown → Prop) : Outcome α → Prop
  | returned a => returns a
  | threw t => fails t
  | unfinished => False

theorem Outcome.Meets.imp {α : Type} {o : Outcome α} {returns returns' : α → Prop}
    {fails fails' : Thrown → Prop} (h : o.Meets returns fails)
    (hreturns : ∀ a, returns a → returns' a) (hfails : ∀ t, fails t → fails' t) :
    o.Meets returns' fails' := by
  cases o with
  | returned a => exact hreturns a h
  | threw t => exact hfails t h
  | unfinished => exact h

namespace Run

variable {σ α β : Type} {pre : Session σ → Prop} {fails : Thrown → Prop}

/-- A run that starts as described and is not aborted by its end returns or throws as
described. -/
structure Ends (pre : Session σ → Prop) (x : Run σ α) (post : α → Session σ → Prop)
    (fails : Thrown → Prop) : Prop where
  /-- Whatever the start, a raised signal is not lowered. -/
  keeps : ∀ s, s.signal = .raised → (x s).session.signal = .raised
  meets : ∀ s, pre s → (x s).session.signal ≠ .raised →
    (x s).outcome.Meets (fun a => post a (x s).session) fails

/-- No failure is allowed. -/
def never : Thrown → Prop := fun _ => False

theorem ends_pure {a : α} {post : α → Session σ → Prop} (h : ∀ s, pre s → post a s) :
    Ends pre (pure a) post fails :=
  ⟨fun _ raised => raised, fun s holds _ => h s holds⟩

theorem ends_throw {t : Thrown} {post : α → Session σ → Prop} (h : ∀ s, pre s → fails t) :
    Ends pre (throw t) post fails :=
  ⟨fun _ raised => raised, fun s holds _ => h s holds⟩

theorem Ends.weaken {x : Run σ α} {pre' : Session σ → Prop} {post post' : α → Session σ → Prop}
    {fails' : Thrown → Prop} (h : Ends pre x post fails) (hpre : ∀ s, pre' s → pre s)
    (hpost : ∀ a s, post a s → post' a s) (hfails : ∀ t, fails t → fails' t) :
    Ends pre' x post' fails' :=
  ⟨h.keeps, fun s holds down =>
    (h.meets s (hpre s holds) down).imp (fun a => hpost a (x s).session) hfails⟩

theorem Ends.of_pre {x : Run σ α} {pre' : Session σ → Prop} {post : α → Session σ → Prop}
    (h : Ends pre x post fails) (hpre : ∀ s, pre' s → pre s) : Ends pre' x post fails :=
  h.weaken hpre (fun _ _ holds => holds) fun _ holds => holds

theorem Ends.of_post {x : Run σ α} {post post' : α → Session σ → Prop}
    (h : Ends pre x post fails) (hpost : ∀ a s, post a s → post' a s) : Ends pre x post' fails :=
  h.weaken (fun _ holds => holds) hpost fun _ holds => holds

theorem Ends.of_fails {x : Run σ α} {post : α → Session σ → Prop} {fails' : Thrown → Prop}
    (h : Ends pre x post fails) (hfails : ∀ t, fails t → fails' t) : Ends pre x post fails' :=
  h.weaken (fun _ holds => holds) (fun _ _ holds => holds) hfails

/-- What does not depend on the session is still so in the end. -/
theorem Ends.assuming {x : Run σ α} {post : α → Session σ → Prop} {p : Prop}
    (h : Ends pre x post fails) :
    Ends (fun s => p ∧ pre s) x (fun a s => p ∧ post a s) (fun t => p ∧ fails t) := by
  refine ⟨h.keeps, fun s start down => ?_⟩
  exact (h.meets s start.2 down).imp (fun _ holds => ⟨start.1, holds⟩)
    fun _ holds => ⟨start.1, holds⟩

theorem Ends.frame {x : Run σ α} {post : α → Session σ → Prop} {p : Prop}
    (h : Ends pre x post fails) :
    Ends (fun s => p ∧ pre s) x (fun a s => p ∧ post a s) fails :=
  h.assuming.of_fails fun _ holds => holds.2

theorem Ends.bind {x : Run σ α} {f : α → Run σ β} {mid : α → Session σ → Prop}
    {post : β → Session σ → Prop} (hx : Ends pre x mid fails)
    (hf : ∀ a, Ends (mid a) (f a) post fails) : Ends pre (x >>= f) post fails := by
  constructor
  · intro s raised
    have first := hx.keeps s raised
    cases out : (x s).outcome with
    | returned a =>
      rw [bind_returned out]
      exact (hf a).keeps _ first
    | threw t =>
      rw [bind_threw out]
      exact first
    | unfinished =>
      rw [bind_unfinished out]
      exact first
  · intro s holds down
    cases out : (x s).outcome with
    | returned a =>
      rw [bind_returned out] at down ⊢
      -- an abort during the first part would still stand at the end of the second
      have first : (x s).session.signal ≠ .raised := fun raised => down ((hf a).keeps _ raised)
      have met := hx.meets s holds first
      rw [out] at met
      exact (hf a).meets _ met down
    | threw t =>
      rw [bind_threw out] at down ⊢
      have met := hx.meets s holds down
      rw [out] at met
      exact met
    | unfinished =>
      rw [bind_unfinished out] at down
      have met := hx.meets s holds down
      rw [out] at met
      exact met.elim

theorem ends_require {e : Except Failure α} {a : α} (passes : e = .ok a) :
    Ends pre (require e) (fun _ => pre) fails :=
  passes ▸ ends_pure fun _ holds => holds

theorem ends_throwIfAborted : Ends pre throwIfAborted (fun _ => pre) fails := by
  constructor
  · intro s raised
    simp [throwIfAborted, raised]
  · intro s holds down
    by_cases raised : s.signal = .raised
    · exact absurd (by simp [throwIfAborted, raised]) down
    · simpa [throwIfAborted, raised, Outcome.Meets] using holds

theorem ends_session : Ends pre session (fun a s => a = s ∧ pre s) fails :=
  ⟨fun _ raised => raised, fun _ holds _ => ⟨rfl, holds⟩⟩

theorem ends_now : Ends pre now (fun _ => pre) fails :=
  ⟨fun _ raised => raised, fun _ holds _ => holds⟩

theorem ends_emit (e : Event) : Ends pre (emit e) (fun _ => pre) fails :=
  ⟨fun _ raised => raised, fun _ holds _ => holds⟩

theorem ends_log (l : Log.Logger) (level : Log.Level) (message : String) (details : List Detail) :
    Ends pre (l.log level message details) (fun _ => pre) fails := by
  unfold Log.Logger.log
  split
  · exact ends_now.bind fun _ => ends_emit _
  · exact ends_pure fun _ holds => holds

/-- An attempt at a run that never fails comes to an answer. -/
theorem Ends.attempt {x : Run σ α} {post : α → Session σ → Prop} (h : Ends pre x post never) :
    Ends pre x.attempt (fun r s => ∃ a, r = .ok a ∧ post a s) fails := by
  constructor
  · intro s raised
    rw [attempt_session]
    exact h.keeps s raised
  · intro s holds down
    rw [attempt_session] at down ⊢
    have met := h.meets s holds down
    cases out : (x s).outcome with
    | returned a =>
      rw [out] at met
      simpa [Run.attempt, out, Outcome.Meets] using met
    | threw t =>
      rw [out] at met
      exact met.elim
    | unfinished =>
      rw [out] at met
      exact met.elim

/-! ## Runs beside the backend -/

/-- Unless it is aborted, the run returns and leaves those outside as they are. -/
def Bystander (x : Run σ Unit) : Prop :=
  ∀ w, Ends (fun s => s.outside = w) x (fun _ s => s.outside = w) never

theorem Bystander.ends {x : Run σ Unit} (h : Bystander x) {holds : σ → Prop} :
    Ends (fun s => holds s.outside) x (fun _ s => holds s.outside) fails := by
  refine ⟨fun s => (h s.outside).keeps s, fun s start down => ?_⟩
  exact ((h s.outside).meets s rfl down).imp (fun _ same => same ▸ start)
    fun _ nothing => nothing.elim

theorem Bystander.bind {x : Run σ Unit} {f : Unit → Run σ Unit} (hx : Bystander x)
    (hf : ∀ u, Bystander (f u)) : Bystander (x >>= f) :=
  fun w => (hx w).bind fun u => hf u w

theorem bystander_pure : Bystander (pure () : Run σ Unit) :=
  fun _ => ends_pure fun _ same => same

theorem bystander_throwIfAborted : Bystander (throwIfAborted : Run σ Unit) :=
  fun _ => ends_throwIfAborted

theorem bystander_emit (e : Event) : Bystander (emit e : Run σ Unit) := fun _ => ends_emit e

theorem ring_raised {s : Session σ} (raised : s.signal = .raised) (a : Alarm) :
    (s.ring a).1.signal = .raised := by
  cases a with
  | abort => simp [Session.ring, Session.raise, raised, Signal.raise]
  | interrupt name =>
    by_cases heard : name ∈ s.listening <;>
      simp [Session.ring, Session.raise, heard, raised, Signal.raise]

theorem ring_outside (s : Session σ) (a : Alarm) : (s.ring a).1.outside = s.outside := by
  cases a with
  | abort => rfl
  | interrupt name =>
    by_cases heard : name ∈ s.listening <;> simp [Session.ring, Session.raise, heard]

theorem bystander_waitUntil {heed : Run σ Unit} (h : Bystander heed) (due alarms : Nat) :
    Bystander (waitUntil heed due alarms) := by
  intro w
  induction alarms with
  | zero => exact ⟨fun _ raised => raised, fun _ same _ => same⟩
  | succ alarms ih =>
    have rest := (h w).bind fun _ => ih
    constructor
    · intro s raised
      unfold waitUntil
      split
      · exact raised
      · apply rest.keeps
        exact ring_raised (by exact raised) _
    · intro s same
      unfold waitUntil
      split
      · exact fun _ => same
      · exact rest.meets _ ((ring_outside _ _).trans same)

/-- Sleeping by the clock may end in an abort, and does nothing to anyone otherwise. -/
theorem bystander_pause (ms : Binary64) : Bystander (pause ms : Run σ Unit) :=
  bystander_throwIfAborted.bind fun _ => (bystander_emit _).bind fun _ =>
    fun w => ends_session.bind fun _ =>
      (bystander_waitUntil bystander_throwIfAborted _ _ w).of_pre fun _ start => start.2

end Run

end JobWatch
