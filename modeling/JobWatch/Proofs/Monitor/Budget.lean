import JobWatch.Proofs.Delay
import JobWatch.Proofs.Monitor.Phases
import JobWatch.Proofs.Run.Deeds
import JobWatch.Proofs.Workers.Listing
import JobWatch.Script

/-!
# The budget of a wait

A wait looks for workers and sleeps between two looks. The main statement says after how many looks
it ends, and with what, whatever the looks are answered: at the first that recognises a worker, at
the first that fails, or at the last of the budget. Every wait has the whole budget, whatever waits
have gone before it. The backend answers from outside, and a sleep that is not aborted is slept
through; waits that are aborted are not spoken of.
-/

namespace JobWatch

variable {σ : Type}

/-- The answer to a look recognises a worker. -/
def Hits (expected : List String) : Except Thrown (List String) → Prop
  | .ok workers => Recognised expected workers
  | .error _ => False

/-- The answer to a look recognises nobody. -/
def Misses (expected : List String) : Except Thrown (List String) → Prop
  | .ok workers => ¬ Recognised expected workers
  | .error _ => False

instance (expected : List String) : DecidablePred (Hits expected)
  | .ok workers => inferInstanceAs (Decidable (Recognised expected workers))
  | .error _ => inferInstanceAs (Decidable False)

instance (expected : List String) : DecidablePred (Misses expected)
  | .ok workers => inferInstanceAs (Decidable (¬ Recognised expected workers))
  | .error _ => inferInstanceAs (Decidable False)

namespace BackendResponder

/-- The state outside after some looks for workers. -/
def afterLooks (r : BackendResponder σ) : σ → Nat → σ
  | w, 0 => w
  | w, k + 1 => r.afterLooks (r.workerIdentifiers w).2 k

/-- What a look for workers is answered, the looks being counted from zero. -/
def lookAt (r : BackendResponder σ) (w : σ) (k : Nat) : Except Thrown (List String) :=
  (r.workerIdentifiers (r.afterLooks w k)).1.outcome

variable {r : BackendResponder σ} {w w' : σ} {answer : Except Thrown (List String)}

theorem lookAt_zero (look : r.workerIdentifiers.Replies w answer w') : r.lookAt w 0 = answer :=
  look.1

theorem lookAt_succ (look : r.workerIdentifiers.Replies w answer w') (k : Nat) :
    r.lookAt w (k + 1) = r.lookAt w' k := by
  rw [← look.2]
  rfl

end BackendResponder

/-- Looks for workers, with a sleep between any two of them. -/
def polls (ms : Binary64) : Nat → List Deed
  | 0 => []
  | 1 => [.calls .workerIdentifiers]
  | looks + 2 => .calls .workerIdentifiers :: .sleeps ms :: polls ms (looks + 1)

/-- What a look that is no miss comes to, with some failed looks behind it. -/
def settlement (failed : Nat) : Except Thrown (List String) → Outcome Nat
  | .ok _ => .returned failed
  | .error t => .threw t

/-! ## Looking again and again -/

/-- The tale of a wait that has some failed looks behind it and some looks left. -/
inductive Looks (r : BackendResponder σ) (expected : List String) (ms : Binary64) :
    Nat → Nat → Tale σ Nat where
  | found {failed left : Nat} {w w' : σ} {workers : List String}
      (look : r.workerIdentifiers.Replies w (.ok workers) w') (hit : Recognised expected workers) :
      Looks r expected ms failed (left + 1) w [.calls .workerIdentifiers] (.returned failed) w'
  | threw {failed left : Nat} {w w' : σ} {t : Thrown}
      (look : r.workerIdentifiers.Replies w (.error t) w') :
      Looks r expected ms failed (left + 1) w [.calls .workerIdentifiers] (.threw t) w'
  | spent {failed : Nat} {w w' : σ} {workers : List String}
      (look : r.workerIdentifiers.Replies w (.ok workers) w')
      (miss : ¬ Recognised expected workers) :
      Looks r expected ms failed 1 w [.calls .workerIdentifiers]
        (.threw (.failure (.noWorkers expected (Binary64.ofNat (failed + 1))))) w'
  | again {failed left : Nat} {w w' w'' : σ} {workers : List String} {ds : List Deed}
      {o : Outcome Nat} (look : r.workerIdentifiers.Replies w (.ok workers) w')
      (miss : ¬ Recognised expected workers)
      (later : Looks r expected ms (failed + 1) (left + 1) w' ds o w'') :
      Looks r expected ms failed (left + 2) w
        (.calls .workerIdentifiers :: .sleeps ms :: ds) o w''

namespace Looks

open BackendResponder

variable {r : BackendResponder σ} {expected : List String} {ms : Binary64} {failed left : Nat}
  {w w' : σ} {ds : List Deed} {o : Outcome Nat}

theorem ne_unfinished (h : Looks r expected ms failed left w ds o w') : o ≠ .unfinished := by
  induction h with
  | found => exact nofun
  | threw => exact nofun
  | spent => exact nofun
  | again _ _ _ ih => exact ih

/-- The first look that is no miss is the last one. -/
theorem at_first (h : Looks r expected ms failed left w ds o w') {k : Nat} (more : k < left)
    (missed : ∀ j < k, Misses expected (r.lookAt w j))
    (settled : ¬ Misses expected (r.lookAt w k)) :
    o = settlement (failed + k) (r.lookAt w k) ∧ ds = polls ms (k + 1) := by
  induction h generalizing k with
  | found look hit =>
    cases k with
    | zero => exact ⟨by rw [lookAt_zero look]; rfl, rfl⟩
    | succ k =>
      have miss := missed 0 k.succ_pos
      rw [lookAt_zero look] at miss
      exact absurd hit miss
  | threw look =>
    cases k with
    | zero => exact ⟨by rw [lookAt_zero look]; rfl, rfl⟩
    | succ k =>
      have miss := missed 0 k.succ_pos
      rw [lookAt_zero look] at miss
      exact miss.elim
  | spent look miss =>
    obtain rfl : k = 0 := Nat.lt_one_iff.mp more
    exact absurd (by rwa [lookAt_zero look]) settled
  | again look miss later ih =>
    cases k with
    | zero => exact absurd (by rwa [lookAt_zero look]) settled
    | succ k =>
      rw [lookAt_succ look] at settled ⊢
      obtain ⟨ended, rfl⟩ := ih (Nat.lt_of_succ_lt_succ more)
        (fun j earlier => lookAt_succ look j ▸ missed (j + 1) (Nat.succ_lt_succ earlier)) settled
      exact ⟨ended.trans (by rw [Nat.add_right_comm, Nat.add_assoc]), rfl⟩

theorem in_vain (h : Looks r expected ms failed left w ds o w')
    (missed : ∀ j < left, Misses expected (r.lookAt w j)) :
    o = .threw (.failure (.noWorkers expected (Binary64.ofNat (failed + left)))) ∧
      ds = polls ms left := by
  induction h with
  | found look hit =>
    have miss := missed 0 (Nat.succ_pos _)
    rw [lookAt_zero look] at miss
    exact absurd hit miss
  | threw look =>
    have miss := missed 0 (Nat.succ_pos _)
    rw [lookAt_zero look] at miss
    exact miss.elim
  | spent look miss => exact ⟨rfl, rfl⟩
  | again look miss later ih =>
    obtain ⟨rfl, rfl⟩ := ih fun j earlier =>
      lookAt_succ look j ▸ missed (j + 1) (Nat.succ_lt_succ earlier)
    exact ⟨by rw [Nat.add_right_comm, Nat.add_assoc], rfl⟩

end Looks

/-! ## Waits -/

namespace Monitor

open Run

/-- The backend answers from outside, and a sleep is slept through unless it is aborted. -/
structure Regular (m : Monitor σ) (r : BackendResponder σ) : Prop where
  backed : m.backend = r.backend
  sleeps : ∀ ms, Leaves [.sleeps ms] (m.sleep ms)

variable {m : Monitor σ} {r : BackendResponder σ}

/-- What comes after a look that has found nobody. -/
def afterMiss (m : Monitor σ) (expected : List String) (looks : Nat) (budget : Backoff) :
    Run σ Nat :=
  if budget.isExhausted then Run.fail (.noWorkers expected (Binary64.ofNat budget.attempts))
  else do
    budget.pause m.sleep
    m.lookForWorkers expected looks budget

theorem unaborted_look (regular : m.Regular r) {expected : List String} {looks : Nat}
    {budget : Backoff}
    (missed : Unaborted (m.afterMiss expected looks budget.fail) fun w' ds o w'' =>
      ∀ w workers, r.workerIdentifiers.Replies w (.ok workers) w' →
        ¬ Recognised expected workers → Looks r expected budget.delayMs budget.attempts (looks + 1)
          w (.calls .workerIdentifiers :: ds) o w'') :
    Unaborted (m.lookForWorkers expected (looks + 1) budget)
      (Looks r expected budget.delayMs budget.attempts (looks + 1)) := by
  rw [lookForWorkers, regular.backed]
  refine leaves_throwIfAborted.bind ?_
  refine unaborted_ask_bind rfl (fun _ _ _ look => .threw look) fun workers => ?_
  refine (leaves_log _ _ _ _).bind ?_
  by_cases hit : hasExpectedWorker expected workers = true
  · simp only [if_pos hit]
    exact unaborted_pure fun _ _ look => .found look (hasExpectedWorker_iff.mp hit)
  · simp only [if_neg hit]
    exact missed.imp fun _ _ _ _ tells w look =>
      tells w workers look fun recognised => hit (hasExpectedWorker_iff.mpr recognised)

theorem unaborted_lookForWorkers (regular : m.Regular r) (expected : List String) (left : Nat)
    {budget : Backoff} (limit : budget.limit = Binary64.ofNat maxWorkerChecks)
    (whole : budget.attempts + (left + 1) = maxWorkerChecks) :
    Unaborted (m.lookForWorkers expected (left + 1) budget)
      (Looks r expected budget.delayMs budget.attempts (left + 1)) := by
  have limit' : budget.fail.limit = Binary64.ofNat maxWorkerChecks := limit
  have attempts : budget.fail.attempts = budget.attempts + 1 := rfl
  -- looks used and looks left make up the budget, so it is used up at the last look and not before
  induction left generalizing budget with
  | zero =>
    have spent : budget.fail.isExhausted = true := (isExhausted_iff limit').mpr (by omega)
    refine unaborted_look regular ?_
    rw [afterMiss, if_pos spent]
    exact unaborted_fail fun _ _ _ look miss => .spent look miss
  | succ left ih =>
    have unspent : ¬ budget.fail.isExhausted = true := by
      rw [isExhausted_iff limit']
      omega
    refine unaborted_look regular ?_
    rw [afterMiss, if_neg unspent, Backoff.pause, bind_assoc]
    refine leaves_throwIfAborted.bind ((regular.sleeps _).bind ?_)
    exact (ih limit' (by omega) limit' rfl).imp fun _ _ _ _ later _ _ look miss =>
      .again look miss later

theorem unaborted_waitForWorkers (regular : m.Regular r) (view : JobView) {sleepSeconds : Binary64}
    (valid : Delay.validate sleepSeconds "sleepSeconds" = .ok ()) :
    Unaborted (m.waitForWorkers view sleepSeconds)
      (Looks r view.expectedWorkers (Delay.ofSeconds sleepSeconds) 0 maxWorkerChecks) := by
  rw [waitForWorkers, valid, require_ok_bind]
  refine (leaves_log _ _ _ _).bind ?_
  exact unaborted_lookForWorkers regular view.expectedWorkers 9
    (by simp only [Backoff.new]) (by simp only [Backoff.new, maxWorkerChecks])

/-- The session after some waits, whatever they came to. -/
def afterWaits (m : Monitor σ) (waits : List (JobView × Binary64)) (s : Session σ) : Session σ :=
  waits.foldl (fun s wait => (m.waitForWorkers wait.1 wait.2 s).session) s

/-- What a wait with a budget of looks makes of the answers to them. -/
structure KeepsToBudget (budget : Nat) (expected : List String) (ms : Binary64)
    (answers : Nat → Except Thrown (List String)) (wait : Result σ Nat) : Prop where
  found : ∀ k < budget, (∀ j < k, Misses expected (answers j)) → Hits expected (answers k) →
    wait.outcome = .returned k ∧ deeds wait.events = polls ms (k + 1)
  threw : ∀ k < budget, (∀ j < k, Misses expected (answers j)) → ∀ t, answers k = .error t →
    wait.outcome = .threw t ∧ deeds wait.events = polls ms (k + 1)
  inVain : (∀ j < budget, Misses expected (answers j)) →
    wait.outcome = .threw (.failure (.noWorkers expected (Binary64.ofNat budget))) ∧
      deeds wait.events = polls ms budget
  ends : wait.outcome ≠ .unfinished

/-- A wait with a valid number of seconds that is not aborted ends, with the number of failed looks
behind it at the first look that recognises a worker, with what a look has thrown at the first that
throws, and in vain after the tenth, whatever waits have gone before it. -/
theorem wait_keeps_to_budget (regular : m.Regular r) (view : JobView) {sleepSeconds : Binary64}
    (valid : Delay.validate sleepSeconds "sleepSeconds" = .ok ())
    (earlier : List (JobView × Binary64)) (s : Session σ)
    (down : (m.waitForWorkers view sleepSeconds (m.afterWaits earlier s)).session.signal ≠
      .raised) :
    KeepsToBudget 10 view.expectedWorkers (sleepSeconds * 1000)
      (r.lookAt (m.afterWaits earlier s).outside)
      (m.waitForWorkers view sleepSeconds (m.afterWaits earlier s)) := by
  have told := (unaborted_waitForWorkers regular view valid).holds _ down
  constructor
  case found =>
    intro k more missed hit
    cases answer : r.lookAt (m.afterWaits earlier s).outside k with
    | ok workers =>
      rw [answer] at hit
      obtain ⟨ended, done⟩ := told.at_first more missed (answer ▸ not_not.mpr hit)
      rw [answer, Nat.zero_add] at ended
      exact ⟨ended, done⟩
    | error t =>
      rw [answer] at hit
      exact hit.elim
  case threw =>
    intro k more missed t answer
    obtain ⟨ended, done⟩ := told.at_first more missed (answer ▸ id)
    rw [answer] at ended
    exact ⟨ended, done⟩
  case inVain => exact told.in_vain
  case ends => exact told.ne_unfinished

/-- The first wait is in vain. The second one finds a worker at its second look. -/
theorem wait_keeps_to_budget_after_another :
    let others : Script (List String) := List.replicate 11 (.ok ["import@h"])
    let play : Play := { backend := { workerIdentifiers := others ++ [.ok ["mail@h"]] } }
    let m : Monitor Play := ⟨Play.responder.backend, Log.Logger.silent, .all, Run.pause⟩
    let view : JobView := ⟨["a"], ["mail"]⟩
    let s := m.afterWaits [(view, 1)] (Session.start 0 play)
    let wait := m.waitForWorkers view 1 s
    wait.outcome = .returned 1 ∧
      deeds wait.events = [.calls .workerIdentifiers, .sleeps 1000, .calls .workerIdentifiers] := by
  intro others play m view s wait
  have regular : m.Regular Play.responder := ⟨rfl, leaves_pause⟩
  have fine : Delay.defect? 1 = none := by decide +kernel
  have valid := Delay.validate_eq_ok fine "sleepSeconds"
  have down : (m.waitForWorkers view 1
      (m.afterWaits [(view, 1)] (Session.start 0 play))).session.signal ≠ .raised := by
    decide +kernel
  have kept := wait_keeps_to_budget regular view valid [(view, 1)] (Session.start 0 play) down
  obtain ⟨ended, done⟩ := kept.found 1 (by decide) (by decide +kernel) (by decide +kernel)
  exact ⟨ended, done.trans (by decide +kernel)⟩

end Monitor

end JobWatch
