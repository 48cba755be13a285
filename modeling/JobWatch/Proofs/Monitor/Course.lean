import JobWatch.Proofs.Monitor.Walk

/-!
# The course of a run of checks

A run of checks goes in rounds: a check, and a rest after it if the check has found work. Every run
goes on for some rounds and then stops, because it is cut off, at a check or at a rest. What it
comes to and leaves in its trail is put together here from its checks and rests, whatever these
do.
-/

namespace JobWatch

open Run

variable {σ : Type}

namespace MonitorLoop

section Course

variable (l : MonitorLoop σ) (view : JobView) (o : WatchOptions σ) (s : Session σ)

/-- The session at the start of a check, the checks being counted from zero. -/
def sessionAt : Nat → Session σ
  | 0 => s
  | k + 1 => (l.rest o (l.monitor.check view (checkOptions o) (sessionAt k)).session).session

def checkAt (k : Nat) : Result σ Bool :=
  l.monitor.check view (checkOptions o) (l.sessionAt view o s k)

def restAt (k : Nat) : Result σ Unit := l.rest o (l.checkAt view o s k).session

/-- The trail of the first rounds. -/
def trailAt (k : Nat) : List Event :=
  (List.range k).flatMap fun i => (l.checkAt view o s i).events ++ (l.restAt view o s i).events

/-- The first checks all find work, and the rests after them are slept through. -/
def GoesOn (k : Nat) : Prop :=
  ∀ i < k, (l.checkAt view o s i).outcome = .returned true ∧
    (l.restAt view o s i).outcome = .returned ()

/-- How a run of checks can end after some rounds: it is cut off, or it ends at the next check, or
at the rest after that. -/
inductive Stops (limit done k : Nat) : Result σ Nat → Prop where
  | cutOff (used : k = limit) :
      Stops limit done k ⟨.unfinished, l.trailAt view o s k, l.sessionAt view o s k⟩
  | atCheck (left : k < limit) (ends : (l.checkAt view o s k).outcome ≠ .returned true) :
      Stops limit done k
        ⟨(l.checkAt view o s k).outcome.map fun _ => done + k + 1,
          l.trailAt view o s k ++ (l.checkAt view o s k).events, (l.checkAt view o s k).session⟩
  | atRest (left : k < limit) (found : (l.checkAt view o s k).outcome = .returned true)
      (ends : (l.restAt view o s k).outcome ≠ .returned ()) :
      Stops limit done k
        ⟨(l.restAt view o s k).outcome.map fun _ => done + k + 1,
          l.trailAt view o s k ++ ((l.checkAt view o s k).events ++ (l.restAt view o s k).events),
          (l.restAt view o s k).session⟩

end Course

variable {l : MonitorLoop σ} {view : JobView} {o : WatchOptions σ} {s : Session σ}

theorem trailAt_succ (k : Nat) :
    l.trailAt view o s (k + 1) = l.trailAt view o s k ++
      ((l.checkAt view o s k).events ++ (l.restAt view o s k).events) := by
  simp only [trailAt, List.range_succ, List.flatMap_append, List.flatMap_cons, List.flatMap_nil,
    List.append_nil]

/-- A check that finds no work, or does not come to an answer, is the last one. -/
theorem checkUntilIdle_of_check {w : Session σ}
    (ends : (l.monitor.check view (checkOptions o) w).outcome ≠ .returned true)
    (left done : Nat) :
    l.checkUntilIdle view o (left + 1) done w =
      let check := l.monitor.check view (checkOptions o) w
      ⟨check.outcome.map fun _ => done + 1, check.events, check.session⟩ := by
  rw [checkUntilIdle_succ]
  cases came : (l.monitor.check view (checkOptions o) w).outcome with
  | returned active =>
    cases active with
    | false =>
      rw [bind_returned came]
      simp only [Bool.not_false, if_true, pure_apply, List.append_nil, came, Outcome.map]
    | true => exact absurd came ends
  | threw t =>
    rw [bind_threw came]
    simp only [came, Outcome.map]
  | unfinished =>
    rw [bind_unfinished came]
    simp only [came, Outcome.map]

/-- A rest that is not slept through ends the run. -/
theorem checkUntilIdle_of_rest {w : Session σ}
    (found : (l.monitor.check view (checkOptions o) w).outcome = .returned true)
    (ends : (l.rest o (l.monitor.check view (checkOptions o) w).session).outcome ≠ .returned ())
    (left done : Nat) :
    l.checkUntilIdle view o (left + 1) done w =
      let check := l.monitor.check view (checkOptions o) w
      let rest := l.rest o check.session
      ⟨rest.outcome.map fun _ => done + 1, check.events ++ rest.events, rest.session⟩ := by
  rw [checkUntilIdle_succ, bind_returned found]
  simp only [Bool.not_true, Bool.false_eq_true, if_false]
  cases came : (l.rest o (l.monitor.check view (checkOptions o) w).session).outcome with
  | returned u => exact absurd came ends
  | threw t =>
    rw [bind_threw came]
    rfl
  | unfinished =>
    rw [bind_unfinished came]
    rfl

/-- A round that goes on can be taken off the front of a run. -/
theorem checkUntilIdle_of_round {w : Session σ}
    (found : (l.monitor.check view (checkOptions o) w).outcome = .returned true)
    (slept : (l.rest o (l.monitor.check view (checkOptions o) w).session).outcome = .returned ())
    (left done : Nat) :
    l.checkUntilIdle view o (left + 1) done w =
      let check := l.monitor.check view (checkOptions o) w
      let rest := l.rest o check.session
      let later := l.checkUntilIdle view o left (done + 1) rest.session
      ⟨later.outcome, check.events ++ (rest.events ++ later.events), later.session⟩ := by
  rw [checkUntilIdle_succ, bind_returned found]
  simp only [Bool.not_true, Bool.false_eq_true, if_false]
  rw [bind_returned slept]

/-- So can any number of them. -/
theorem checkUntilIdle_of_goesOn {k : Nat} (goesOn : l.GoesOn view o s k) (left done : Nat) :
    l.checkUntilIdle view o (left + k) done s =
      let later := l.checkUntilIdle view o left (done + k) (l.sessionAt view o s k)
      ⟨later.outcome, l.trailAt view o s k ++ later.events, later.session⟩ := by
  induction k generalizing left with
  | zero => rfl
  | succ k ih =>
    obtain ⟨found, slept⟩ := goesOn k (Nat.lt_succ_self k)
    have before := ih (fun i less => goesOn i (Nat.lt_succ_of_lt less)) (left + 1)
    rw [show left + (k + 1) = left + 1 + k by omega, before,
      checkUntilIdle_of_round found slept, trailAt_succ, ← Nat.add_assoc]
    simp only [List.append_assoc]
    rfl

theorem GoesOn.succ {k : Nat} (goesOn : l.GoesOn view o s k)
    (found : (l.checkAt view o s k).outcome = .returned true)
    (slept : (l.restAt view o s k).outcome = .returned ()) : l.GoesOn view o s (k + 1) := by
  intro i less
  rcases Nat.lt_succ_iff_lt_or_eq.mp less with before | rfl
  · exact goesOn i before
  · exact ⟨found, slept⟩

/-- Every run of checks goes on for some rounds and then stops. -/
theorem checkUntilIdle_stops (l : MonitorLoop σ) (view : JobView) (o : WatchOptions σ)
    (s : Session σ) (limit done : Nat) :
    ∃ k, l.GoesOn view o s k ∧
      l.Stops view o s limit done k (l.checkUntilIdle view o limit done s) := by
  -- by the number of checks still allowed for, after some rounds that have gone on
  suffices h : ∀ left k, left + k = limit → l.GoesOn view o s k → ∃ k, l.GoesOn view o s k ∧
      l.Stops view o s limit done k (l.checkUntilIdle view o limit done s) from
    h limit 0 rfl fun _ none => absurd none (Nat.not_lt_zero _)
  intro left
  induction left with
  | zero =>
    intro k used goesOn
    refine ⟨k, goesOn, ?_⟩
    rw [← used, checkUntilIdle_of_goesOn goesOn]
    have stops : l.Stops view o s (0 + k) done k
        ⟨.unfinished, l.trailAt view o s k, l.sessionAt view o s k⟩ := .cutOff (Nat.zero_add k).symm
    rw [← List.append_nil (l.trailAt view o s k)] at stops
    exact stops
  | succ left ih =>
    intro k used goesOn
    by_cases found : (l.checkAt view o s k).outcome = .returned true
    · by_cases slept : (l.restAt view o s k).outcome = .returned ()
      · exact ih (k + 1) (by omega) (goesOn.succ found slept)
      · refine ⟨k, goesOn, ?_⟩
        rw [← used, checkUntilIdle_of_goesOn goesOn, checkUntilIdle_of_rest found slept]
        exact .atRest (by omega) found slept
    · refine ⟨k, goesOn, ?_⟩
      rw [← used, checkUntilIdle_of_goesOn goesOn, checkUntilIdle_of_check found]
      exact .atCheck (by omega) found

theorem now_bind {α : Type} (f : Nat → Run σ α) (s : Session σ) :
    (Run.now >>= f) s = f s.now s := rfl

/-- What comes after the last check. -/
def close (l : MonitorLoop σ) (started checks : Nat) : Run σ Summary := do
  let durationMs := (← Run.now) - started
  l.logger.info ("queues are empty and workers are idle after " ++ toString checks
    ++ " checks (" ++ toString durationMs ++ "ms)")
  return ⟨checks, durationMs⟩

theorem close_apply (l : MonitorLoop σ) (started checks : Nat) (s : Session σ) :
    ∃ lines, l.close started checks s = ⟨.returned ⟨checks, s.now - started⟩, lines, s⟩ ∧
      ∀ e ∈ lines, e.isLine = true := by
  obtain ⟨lines, logs, lined⟩ := log_apply l.logger .info
    ("queues are empty and workers are idle after " ++ toString checks
      ++ " checks (" ++ toString (s.now - started) ++ "ms)") [] s
  refine ⟨lines, ?_, lined⟩
  rw [close, now_bind, Log.Logger.info, bind_returned (by rw [logs]), logs, pure_apply,
    List.append_nil]

theorem run_eq (l : MonitorLoop σ) (limit : Nat) (view : JobView) (o : WatchOptions σ)
    (s : Session σ) :
    l.run limit view o s = (l.checkUntilIdle view o limit 0 >>= l.close s.now) s := by
  rw [run, now_bind]
  rfl

/-- A run comes to what its checks come to, with at most a line in the end. -/
theorem run_apply (l : MonitorLoop σ) (limit : Nat) (view : JobView) (o : WatchOptions σ)
    (s : Session σ) :
    let checks := l.checkUntilIdle view o limit 0 s
    ∃ closing, l.run limit view o s =
        ⟨checks.outcome.map (fun n => ⟨n, checks.session.now - s.now⟩),
          checks.events ++ closing, checks.session⟩ ∧
      ∀ e ∈ closing, e.isLine = true := by
  intro checks
  rw [run_eq]
  cases came : (l.checkUntilIdle view o limit 0 s).outcome with
  | returned n =>
    obtain ⟨lines, closes, lined⟩ := l.close_apply s.now n checks.session
    refine ⟨lines, ?_, lined⟩
    rw [bind_returned came, closes]
    simp only [checks, Outcome.map]
  | threw t =>
    refine ⟨[], ?_, List.forall_mem_nil _⟩
    rw [bind_threw came, List.append_nil]
    simp only [checks, Outcome.map]
  | unfinished =>
    refine ⟨[], ?_, List.forall_mem_nil _⟩
    rw [bind_unfinished came, List.append_nil]
    simp only [checks, Outcome.map]

end MonitorLoop

end JobWatch
