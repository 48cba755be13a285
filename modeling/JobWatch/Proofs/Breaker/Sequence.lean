import JobWatch.Proofs.Breaker.Streak

/-!
# Calls one after another

When no call overlaps another, a breaker is a rule about the past: a call is refused exactly if
the calls let through just before it have all failed, as many as the threshold, and the last of
these failures is not yet as long ago as the timeout. The clock may read anything at the start and
at the end of a call, also less than before. What calls that overlap make of the rule is not
treated here.
-/

namespace JobWatch.Breaker

/-! ## Single calls -/

/-- A guarded call from its start to its end, with no other call in between. -/
structure Call where
  /-- What the clock reads when the call begins. -/
  began : Nat
  /-- What the clock reads when the guarded function has ended. -/
  ended : Nat
  /-- How the guarded function ends, if it is run. -/
  ending : Ending

def Call.settlement (c : Call) : Settlement := ⟨c.ended, Desk.isSuccess c.ending⟩

/-- What comes of a call. -/
structure CallResult where
  breaker : Breaker
  ending : Ending
  /-- How often the guarded function was run. -/
  runs : Nat

def execute (b : Breaker) (c : Call) : CallResult :=
  match b.start? c.began with
  | none => ⟨b, .error (.failure b.refusal), 0⟩
  | some started => ⟨started.settle c.ended (Desk.isSuccess c.ending), c.ending, 1⟩

theorem execute_of_refuses {b : Breaker} {c : Call} (refused : b.refuses c.began = true) :
    b.execute c = ⟨b, .error (.failure b.refusal), 0⟩ := by
  simp [execute, start?, refused]

theorem execute_of_passes {b : Breaker} {c : Call} (passes : b.refuses c.began = false) :
    b.execute c = ⟨b.letThrough.record (some c.settlement), c.ending, 1⟩ := by
  simp [execute, start?, passes, record, Call.settlement]

/-- At a desk where it takes no time, a call is an action. -/
theorem Desk.step_execute (d : Desk) (ending : Ending) :
    let r := d.breaker.execute ⟨d.now, d.now, ending⟩
    d.step (.execute ending) =
      ({ d with breaker := r.breaker }, .ended r.ending, List.replicate r.runs .called) := by
  cases refused : d.breaker.refuses d.now <;>
    simp [execute, step, start?, refused, refusal]

/-- At a desk where it takes time, a call is a start and an end with nothing in between. -/
theorem Desk.after_start_settle {d : Desk} {id : String} (unused : id ∉ d.pending) (ms : Nat)
    (ending : Ending) :
    (d.after [.start id, .advance ms, .settle id ending]).breaker =
      (d.breaker.execute ⟨d.now, d.now + ms, ending⟩).breaker := by
  cases refused : d.breaker.refuses d.now <;>
    simp [execute, after, step, start?, refused, unused]

/-- The call fails with the refusal of the breaker, its function is not run, and nothing about the
breaker changes. -/
def TurnsAway (b : Breaker) (c : Call) : Prop :=
  b.execute c = ⟨b, .error (.failure (.breakerOpen b.name)), 0⟩

theorem turnsAway_iff {b : Breaker} {c : Call} :
    b.TurnsAway c ↔ b.refuses c.began = true := by
  cases refused : b.refuses c.began with
  | true => simp [TurnsAway, execute_of_refuses refused, refusal]
  | false => simp [TurnsAway, execute_of_passes refused]

theorem sameSettings_execute (b : Breaker) (c : Call) :
    b.SameSettings (b.execute c).breaker := by
  cases refused : b.refuses c.began with
  | true =>
    rw [execute_of_refuses refused]
    exact ⟨rfl, rfl, rfl⟩
  | false =>
    rw [execute_of_passes refused]
    exact sameSettings_record b.letThrough _

/-! ## Sequences of calls -/

/-- The breaker after calls one after another. -/
def afterCalls (b : Breaker) : List Call → Breaker
  | [] => b
  | c :: rest => (b.execute c).breaker.afterCalls rest

/-- The settlements of the calls that were let through, in order: one for each time that a guarded
function was run. -/
def admitted (b : Breaker) : List Call → List Settlement
  | [] => []
  | c :: rest =>
    List.replicate (b.execute c).runs c.settlement ++ (b.execute c).breaker.admitted rest

theorem sameSettings_afterCalls (b : Breaker) (calls : List Call) :
    b.SameSettings (b.afterCalls calls) := by
  induction calls generalizing b with
  | nil => exact ⟨rfl, rfl, rfl⟩
  | cons c rest ih => exact (b.sameSettings_execute c).trans (ih (b.execute c).breaker)

/-- What a breaker with these failures in a row is between calls: no probe is on its way. -/
def restingCircuit (b : Breaker) : Circuit :=
  if b.isTripped b.consecutiveFailures then .opened else .closed

/-- Between calls, the breaker is what the settlements before have made it. -/
structure Reflects (b : Breaker) (es : List Settlement) : Prop where
  inRow : b.consecutiveFailures = failuresInRow 0 es
  latest : b.lastFailure = latestFailure 0 es
  circuit : b.circuit = b.restingCircuit

theorem isTripped_zero {b : Breaker} (positive : b.threshold.isPositive = true) :
    b.isTripped 0 = false :=
  Bool.eq_false_iff.mpr (Binary64.not_atMost_zero_of_isPositive positive)

theorem reflects_new {name : String} {threshold timeoutMs : Binary64}
    (positive : threshold.isPositive = true) : (new name threshold timeoutMs).Reflects [] := by
  have low : (new name threshold timeoutMs).isTripped 0 = false := isTripped_zero positive
  refine ⟨rfl, rfl, ?_⟩
  rw [restingCircuit, show (new name threshold timeoutMs).consecutiveFailures = 0 from rfl, low]
  rfl

theorem restingCircuit_succeed {b : Breaker} (positive : b.threshold.isPositive = true) :
    b.succeed.circuit = b.succeed.restingCircuit := by
  have low : b.succeed.isTripped 0 = false := isTripped_zero positive
  rw [restingCircuit, show b.succeed.consecutiveFailures = 0 from rfl, low]
  rfl

/-- A failed probe opens the breaker again, and a failure of a closed breaker opens it if it is one
too many. -/
theorem restingCircuit_fail {b : Breaker} (resting : b.circuit = b.restingCircuit) (now : Nat) :
    (b.letThrough.fail now).circuit = (b.letThrough.fail now).restingCircuit := by
  have count : (b.letThrough.fail now).consecutiveFailures = b.consecutiveFailures + 1 := rfl
  have same : (b.letThrough.fail now).isTripped (b.consecutiveFailures + 1) =
      b.isTripped (b.consecutiveFailures + 1) := rfl
  rw [restingCircuit, count, same]
  cases tripped : b.isTripped (b.consecutiveFailures + 1) with
  | true =>
    have opens : b.letThrough.isTripped (b.letThrough.consecutiveFailures + 1) = true := tripped
    simp [fail, opens]
  | false =>
    have before : b.isTripped b.consecutiveFailures = false := by
      apply Bool.eq_false_iff.mpr
      intro already
      rw [isTripped_mono (Nat.le_succ _) already] at tripped
      cases tripped
    have closed : b.letThrough.circuit = .closed := by
      simp [letThrough, resting, restingCircuit, before]
    have stays : b.letThrough.isTripped (b.letThrough.consecutiveFailures + 1) = false := tripped
    simp [fail, closed, stays]

theorem Reflects.record {b : Breaker} {es : List Settlement} (h : b.Reflects es)
    (positive : b.threshold.isPositive = true) (e : Settlement) :
    (b.letThrough.record (some e)).Reflects (es ++ [e]) := by
  refine ⟨?_, ?_, ?_⟩
  · rw [record_consecutiveFailures, failuresInRow_append, ← h.inRow]
    rfl
  · rw [record_lastFailure, latestFailure_append, ← h.latest]
    rfl
  · cases succeeded : e.succeeded with
    | true =>
      simpa [Breaker.record, settle, succeeded] using
        restingCircuit_succeed (b := b.letThrough) positive
    | false =>
      simpa [Breaker.record, settle, succeeded] using restingCircuit_fail h.circuit e.time

theorem Reflects.execute {b : Breaker} {es : List Settlement} (h : b.Reflects es)
    (positive : b.threshold.isPositive = true) (c : Call) :
    (b.execute c).breaker.Reflects (es ++ List.replicate (b.execute c).runs c.settlement) := by
  cases refused : b.refuses c.began with
  | true =>
    rw [execute_of_refuses refused]
    simpa using h
  | false =>
    rw [execute_of_passes refused]
    exact h.record positive c.settlement

theorem Reflects.afterCalls {b : Breaker} {es : List Settlement} (h : b.Reflects es)
    (positive : b.threshold.isPositive = true) (calls : List Call) :
    (b.afterCalls calls).Reflects (es ++ b.admitted calls) := by
  induction calls generalizing b es with
  | nil => simpa [Breaker.afterCalls, admitted] using h
  | cons c rest ih =>
    have positive' : (b.execute c).breaker.threshold.isPositive = true := by
      rw [(b.sameSettings_execute c).2.1]
      exact positive
    have later := ih (h.execute positive c) positive'
    rwa [List.append_assoc] at later

/-- Between calls, a breaker refuses by the history alone. -/
theorem Reflects.refuses_iff {b : Breaker} {es : List Settlement} (h : b.Reflects es) (now : Nat) :
    b.refuses now = true ↔ b.threshold.atMost (streak es).length = true ∧
      b.timeoutMs.atMost ((now : Int) - lastFailedAt es) = false := by
  rw [← failuresInRow_eq_length_streak, ← latestFailure_eq_lastFailedAt, ← h.inRow, ← h.latest]
  cases tripped : b.isTripped b.consecutiveFailures with
  | true =>
    have opened : b.circuit = .opened := by
      rw [h.circuit, restingCircuit, tripped]
      rfl
    have reached : b.threshold.atMost b.consecutiveFailures = true := tripped
    simp [refuses, isRested, opened, reached]
  | false =>
    have closed : b.circuit = .closed := by
      rw [h.circuit, restingCircuit, tripped]
      rfl
    have below : b.threshold.atMost b.consecutiveFailures = false := tripped
    simp [refuses, closed, below]

/-- A call after any calls one after another is refused exactly if the failures since the latest
success reach the threshold and the latest of them is less than the timeout ago. Every other call
runs its function once and ends as the function does. -/
theorem turnsAway_iff_streak {name : String} {threshold timeoutMs : Binary64}
    (positive : threshold.isPositive = true) (earlier : List Call) (c : Call) :
    let fresh := Breaker.new name threshold timeoutMs
    let b := fresh.afterCalls earlier
    let es := fresh.admitted earlier
    (b.TurnsAway c ↔ threshold.atMost (streak es).length = true ∧
        timeoutMs.atMost ((c.began : Int) - lastFailedAt es) = false) ∧
      (¬ b.TurnsAway c → (b.execute c).runs = 1 ∧ (b.execute c).ending = c.ending) := by
  intro fresh b es
  have reflects : b.Reflects es := (reflects_new positive).afterCalls positive earlier
  obtain ⟨_, sameThreshold, sameTimeout⟩ := fresh.sameSettings_afterCalls earlier
  refine ⟨?_, ?_⟩
  · rw [turnsAway_iff, reflects.refuses_iff, sameThreshold, sameTimeout]
    rfl
  · intro goesOn
    have passes : b.refuses c.began = false :=
      Bool.eq_false_iff.mpr fun refused => goesOn (turnsAway_iff.mpr refused)
    rw [execute_of_passes passes]
    exact ⟨rfl, rfl⟩

/-- The breaker opens, a call is refused, the probe fails, and the next call is refused at a clock
that was set back. -/
theorem turnsAway_iff_streak_of_failed_probe :
    let broken : Ending := .error (.failure (.plain "x"))
    let fresh := Breaker.new "b" 2 50
    let earlier : List Call := [⟨0, 1, .ok .null⟩, ⟨2, 3, broken⟩, ⟨4, 9, broken⟩,
      ⟨20, 21, .ok .null⟩, ⟨59, 80, broken⟩]
    Binary64.isPositive 2 = true ∧
      fresh.admitted earlier = [⟨1, true⟩, ⟨3, false⟩, ⟨9, false⟩, ⟨80, false⟩] ∧
      (fresh.afterCalls earlier).TurnsAway ⟨70, 71, .ok .null⟩ := by
  intro broken fresh earlier
  have positive : Binary64.isPositive 2 = true := by decide +kernel
  have settled : fresh.admitted earlier = [⟨1, true⟩, ⟨3, false⟩, ⟨9, false⟩, ⟨80, false⟩] := by
    decide +kernel
  refine ⟨positive, settled, ?_⟩
  apply (turnsAway_iff_streak positive earlier ⟨70, 71, .ok .null⟩).1.mpr
  refine ⟨?_, ?_⟩ <;> decide +kernel

end JobWatch.Breaker
