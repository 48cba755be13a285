import JobWatch.Proofs.Breaker.Admission
import JobWatch.Proofs.Breaker.Streak

/-!
# What the counters of a breaker say

Calls overlap, and each of them is counted at two times: among the calls when it is let through,
among the failures when it fails. The first main statement says that the breaker is closed exactly
while its failures in a row are fewer than the threshold. The second reads every counter off the
history of a run without resets. The third says what is left of this when the counters are reset
while calls are pending: the failures may exceed the calls, by the number of those calls that have
failed since and by no more.
-/

namespace JobWatch.Breaker

/-- A guarded function is run. -/
def Sight.isCall : Sight → Bool
  | .called => true
  | .settled _ _ => false

theorem Consistent.isTripped_of_not_closed {b : Breaker} {now : Nat} (h : b.Consistent now)
    (notClosed : b.circuit ≠ .closed) : b.isTripped b.consecutiveFailures = true :=
  (h.down_iff.mpr notClosed).2

theorem Consistent.closed_iff_isAbove {b : Breaker} {now : Nat} (h : b.Consistent now)
    (positive : b.threshold.isPositive = true) :
    b.circuit = .closed ↔ b.threshold.isAbove b.consecutiveFailures = true := by
  rw [Binary64.isAbove_iff_of_isPositive positive]
  constructor
  · intro closed reached
    have counted : 0 < b.consecutiveFailures := by
      apply Nat.pos_of_ne_zero
      intro none
      rw [none] at reached
      exact Binary64.not_atMost_zero_of_isPositive positive reached
    exact h.down_iff.mp ⟨counted, reached⟩ closed
  · intro below
    by_contra notClosed
    exact below (h.isTripped_of_not_closed notClosed)

namespace Desk

/-! ## The circuit and the failures in a row -/

/-- Under a positive threshold the breaker is closed exactly while the failures in a row are
fewer, wherever the settlements of older calls and the resets fall. -/
theorem closed_iff_below_threshold {d : Desk} (reachable : d.Reachable)
    (positive : d.breaker.threshold.isPositive = true) :
    (d.breaker.circuit = .closed ↔
        d.breaker.threshold.isAbove d.breaker.consecutiveFailures = true) ∧
      (d.breaker.circuit = .opened →
        d.breaker.threshold.atMost d.breaker.consecutiveFailures = true) ∧
      (d.breaker.circuit = .halfOpen →
        d.breaker.threshold.atMost d.breaker.consecutiveFailures = true) := by
  have consistent := reachable.consistent
  refine ⟨consistent.closed_iff_isAbove positive, ?_, ?_⟩
  · intro opened
    exact consistent.isTripped_of_not_closed (by simp [opened])
  · intro half
    exact consistent.isTripped_of_not_closed (by simp [half])

/-- Two calls that were pending at a reset have failed since, and a third is on its way as a
probe. -/
theorem closed_iff_below_threshold_of_probe :
    let broken : Ending := .error (.failure (.plain "x"))
    let d := (Desk.new (Breaker.new "b" 2 10) 0).after
      [.start "s", .start "a", .reset, .settle "a" broken, .settle "s" broken, .advance 10,
        .start "p"]
    d.Reachable ∧ d.breaker.threshold.isPositive = true ∧ d.breaker.circuit = .halfOpen ∧
      d.breaker.threshold.atMost d.breaker.consecutiveFailures = true ∧
      ¬ d.breaker.threshold.isAbove d.breaker.consecutiveFailures = true := by
  intro broken d
  have reachable : d.Reachable := ⟨"b", 2, 10, 0, _, rfl⟩
  have positive : d.breaker.threshold.isPositive = true := by decide +kernel
  have half : d.breaker.circuit = .halfOpen := by decide +kernel
  obtain ⟨closed, _, reached⟩ := closed_iff_below_threshold reachable positive
  refine ⟨reachable, positive, half, reached half, fun below => ?_⟩
  have notClosed := closed.mpr below
  rw [half] at notClosed
  cases notClosed

/-! ## Calls and failures of a run -/

/-- How many guarded functions are run by an action: one or none. -/
def callsOf (d : Desk) (a : Action) : Nat := (d.step a).2.2.countP Sight.isCall

/-- How many guarded functions are run in a run. -/
def calls (d : Desk) : List Action → Nat
  | [] => 0
  | a :: rest => d.callsOf a + (d.step a).1.calls rest

/-- What an action adds to the counters, and to the calls that are pending. -/
theorem tally_step {d : Desk} {a : Action} (h : a ≠ .reset) :
    (d.step a).1.breaker.totalCalls = d.breaker.totalCalls + d.callsOf a ∧
      (d.step a).1.breaker.totalFailures =
        d.breaker.totalFailures + (d.settlement? a).toList.countP Settlement.failed ∧
      (d.step a).1.pending.length + (d.settlement? a).toList.length =
        d.pending.length + d.callsOf a := by
  cases a with
  | execute ending =>
    cases refused : d.breaker.refuses d.now with
    | true => simp [callsOf, step, start?, settlement?, refused]
    | false =>
      -- counted as a call and as a settlement at once, so that nothing stays pending
      cases succeeded : isSuccess ending <;>
        simp [callsOf, step, start?, settlement?, refused, succeeded, Sight.isCall,
          Settlement.failed, settle, succeed, fail, letThrough]
  | start id =>
    cases refused : d.breaker.refuses d.now with
    | true => simp [callsOf, step, start?, settlement?, refused, Sight.isCall]
    | false => simp [callsOf, step, start?, settlement?, refused, Sight.isCall, letThrough]
  | settle id ending =>
    by_cases waiting : id ∈ d.pending
    · have one := List.length_erase_add_one waiting
      cases succeeded : isSuccess ending <;>
        simp [callsOf, step, settlement?, waiting, succeeded, Sight.isCall, Settlement.failed,
          settle, succeed, fail, one, -List.length_erase_of_mem]
    · simp [callsOf, step, settlement?, waiting]
  | reset => exact absurd rfl h
  | advance ms => exact ⟨rfl, rfl, rfl⟩

theorem tally_after (d : Desk) {acts : List Action} (unreset : .reset ∉ acts) :
    (d.after acts).breaker.totalCalls = d.breaker.totalCalls + d.calls acts ∧
      (d.after acts).breaker.totalFailures =
        d.breaker.totalFailures + (d.history acts).countP Settlement.failed ∧
      (d.after acts).pending.length + (d.history acts).length =
        d.pending.length + d.calls acts := by
  induction acts generalizing d with
  | nil => exact ⟨rfl, rfl, rfl⟩
  | cons a rest ih =>
    obtain ⟨first, later⟩ := List.ne_and_not_mem_of_not_mem_cons unreset
    obtain ⟨calls, failures, pending⟩ := d.tally_step (Ne.symm first)
    obtain ⟨calls', failures', pending'⟩ := ih (d.step a).1 later
    rw [after, history, Desk.calls, List.countP_append, List.length_append]
    refine ⟨?_, ?_, ?_⟩ <;> omega

/-- A refused call leaves everything as it is. -/
theorem step_of_not_reaches {d : Desk} {a : Action} (call : a.beginsCall = true)
    (unreached : ¬ d.Reaches a) : (d.step a).1 = d := by
  have refused : d.Refuses a := by
    by_contra through
    exact unreached ((reaches_iff call).mpr through)
  cases a with
  | start id => exact congrArg Prod.fst refused
  | execute ending => exact congrArg Prod.fst refused
  | settle id ending => cases call
  | reset => cases call
  | advance ms => cases call

/-- After any run without resets, the counters are those of its history: all calls that were let
through have succeeded, failed or are pending, the failures in a row are those since the latest
success, and the time kept is that of the latest failure. Refused calls change nothing. -/
theorem counters_eq_history {name : String} {threshold timeoutMs : Binary64} {now : Nat}
    {acts : List Action} (unreset : .reset ∉ acts) :
    let start := Desk.new (Breaker.new name threshold timeoutMs) now
    let d := start.after acts
    let es := start.history acts
    d.breaker.totalCalls = start.calls acts ∧
      d.breaker.totalCalls =
        es.countP Settlement.succeeded + d.breaker.totalFailures + d.pending.length ∧
      d.breaker.totalFailures = es.countP Settlement.failed ∧
      d.breaker.consecutiveFailures = (streak es).length ∧
      d.breaker.lastFailure = lastFailedAt es ∧
      ∀ a, a.beginsCall = true → ¬ d.Reaches a → (d.step a).1 = d := by
  intro start d es
  obtain ⟨calls, failures, pending⟩ := start.tally_after unreset
  have inRow : d.breaker.consecutiveFailures = failuresInRow 0 es :=
    start.consecutiveFailures_after unreset
  have latest : d.breaker.lastFailure = latestFailure 0 es := start.lastFailure_after unreset
  have calls : d.breaker.totalCalls = start.calls acts := calls.trans (Nat.zero_add _)
  have failures : d.breaker.totalFailures = es.countP Settlement.failed :=
    failures.trans (Nat.zero_add _)
  have pending : d.pending.length + es.length = start.calls acts :=
    pending.trans (Nat.zero_add _)
  have kinds := length_eq_succeeded_add_failed es
  refine ⟨calls, ?_, failures, ?_, ?_, fun a => step_of_not_reaches⟩
  · omega
  · rw [inRow, failuresInRow_eq_length_streak]
  · rw [latest, latestFailure_eq_lastFailedAt]

/-- Three calls overlap and two of them fail, so that a fourth is refused and a fifth goes through
as a probe only later. -/
theorem counters_eq_history_of_overlap :
    let broken : Ending := .error (.failure (.plain "x"))
    let start := Desk.new (Breaker.new "b" 2 10) 5
    let acts : List Action := [.start "a", .start "b", .execute (.ok .null), .settle "a" broken,
      .advance 3, .settle "b" broken, .start "r", .advance 10, .start "p"]
    let d := start.after acts
    .reset ∉ acts ∧ d.breaker.totalCalls = 1 + d.breaker.totalFailures + d.pending.length ∧
      d.breaker.totalFailures = 2 ∧ d.breaker.consecutiveFailures = 2 ∧
      d.breaker.lastFailure = 8 := by
  intro broken start acts d
  have unreset : .reset ∉ acts := by simp [acts]
  have settled : start.history acts = [⟨5, true⟩, ⟨5, false⟩, ⟨8, false⟩] := by decide +kernel
  have counters := @counters_eq_history "b" 2 10 5 acts unreset
  simp only [start] at settled
  simp only [settled] at counters
  simp only [d, start]
  obtain ⟨_, calls, failures, inRow, latest, _⟩ := counters
  exact ⟨unreset, calls, failures, inRow, latest⟩

/-! ## Resets while calls are pending -/

theorem consecutiveFailures_le_step {d : Desk} (a : Action)
    (le : d.breaker.consecutiveFailures ≤ d.breaker.totalFailures) :
    (d.step a).1.breaker.consecutiveFailures ≤ (d.step a).1.breaker.totalFailures := by
  by_cases reset : a = .reset
  · subst reset
    exact Nat.le_refl 0
  · obtain ⟨_, failures, _⟩ := d.tally_step reset
    have inRow := failuresInRow_le d.breaker.consecutiveFailures (d.settlement? a).toList
    rw [consecutiveFailures_step reset, failures]
    omega

theorem consecutiveFailures_le_after {d : Desk} (acts : List Action)
    (le : d.breaker.consecutiveFailures ≤ d.breaker.totalFailures) :
    (d.after acts).breaker.consecutiveFailures ≤ (d.after acts).breaker.totalFailures := by
  induction acts generalizing d with
  | nil => exact le
  | cons a rest ih => exact ih (consecutiveFailures_le_step a le)

/-- The calls that were pending at the latest reset: those that still are, and how many have failed
since. -/
structure Stragglers where
  pending : List String
  failed : Nat

/-- The stragglers after an action. Of two pending calls of one id the older one ends first. -/
def Stragglers.next (s : Stragglers) (d : Desk) : Action → Stragglers
  | .reset => ⟨d.pending, 0⟩
  | .settle id ending =>
    if id ∈ s.pending then
      ⟨s.pending.erase id, if isSuccess ending then s.failed else s.failed + 1⟩
    else s
  | _ => s

/-- The stragglers after a run. -/
def stragglers (d : Desk) (s : Stragglers) : List Action → Stragglers
  | [] => s
  | a :: rest => (d.step a).1.stragglers (s.next d a) rest

/-- The stragglers are the oldest of the pending calls, and the failures that do not belong to a
call counted are theirs. -/
structure Stragglers.Explain (s : Stragglers) (d : Desk) : Prop where
  oldest : s.pending <+: d.pending
  failures_le : d.breaker.totalFailures + d.pending.length ≤
    d.breaker.totalCalls + s.failed + s.pending.length

/-- An action after which the stragglers are the same calls. -/
theorem Stragglers.Explain.of_same {s : Stragglers} {d : Desk} {a : Action} (h : s.Explain d)
    (unreset : a ≠ .reset) (oldest : s.pending <+: (d.step a).1.pending) :
    s.Explain (d.step a).1 := by
  obtain ⟨calls, failures, pending⟩ := d.tally_step unreset
  have settled : (d.settlement? a).toList.countP Settlement.failed ≤
      (d.settlement? a).toList.length := List.countP_le_length
  have known := h.failures_le
  -- the call that ends, if one does, is no straggler: at most a failure more, a pending call less
  refine ⟨oldest, ?_⟩
  omega

/-- The end of a call that was pending at the latest reset. -/
theorem Stragglers.Explain.of_straggler {s : Stragglers} {d : Desk} {id : String}
    (h : s.Explain d) (straggles : id ∈ s.pending) (ending : Ending) :
    (s.next d (.settle id ending)).Explain (d.step (.settle id ending)).1 := by
  have waiting : id ∈ d.pending := h.oldest.subset straggles
  obtain ⟨fresh, split⟩ := h.oldest
  have still : (d.step (.settle id ending)).1.pending = s.pending.erase id ++ fresh := by
    simp only [step, waiting, if_true]
    rw [← split, List.erase_append_left fresh straggles]
  obtain ⟨calls, failures, pending⟩ := d.tally_step (a := .settle id ending) (by simp)
  have fewer := List.length_erase_add_one straggles
  have known := h.failures_le
  have settled : d.settlement? (.settle id ending) = some ⟨d.now, isSuccess ending⟩ := by
    simp [settlement?, waiting]
  rw [settled] at failures pending
  simp only [Option.toList_some, List.countP_singleton, Settlement.failed] at failures
  simp only [Option.toList_some, List.length_singleton] at pending
  simp only [Stragglers.next, straggles, if_true]
  cases succeeded : isSuccess ending with
  | true =>
    refine ⟨still ▸ List.prefix_append _ _, ?_⟩
    simp only [succeeded, Bool.not_true, Bool.false_eq_true, if_false, if_true] at failures ⊢
    omega
  | false =>
    refine ⟨still ▸ List.prefix_append _ _, ?_⟩
    simp only [succeeded, Bool.not_false, Bool.false_eq_true, if_false, if_true] at failures ⊢
    omega

/-- Only a reset makes new stragglers, and only their ends change them. -/
theorem Stragglers.Explain.step {s : Stragglers} {d : Desk} (h : s.Explain d) (a : Action) :
    (s.next d a).Explain (d.step a).1 := by
  cases a with
  | execute ending =>
    refine h.of_same (by simp) ?_
    cases refused : d.breaker.refuses d.now <;>
      simpa [Desk.step, start?, refused] using h.oldest
  | start id =>
    refine h.of_same (by simp) ?_
    cases refused : d.breaker.refuses d.now with
    | true => simpa [Desk.step, start?, refused] using h.oldest
    | false =>
      simpa [Desk.step, start?, refused] using h.oldest.trans (List.prefix_append _ _)
  | settle id ending =>
    by_cases straggles : id ∈ s.pending
    · exact h.of_straggler straggles ending
    · have same : s.next d (.settle id ending) = s := by simp [Stragglers.next, straggles]
      rw [same]
      refine h.of_same (by simp) ?_
      by_cases waiting : id ∈ d.pending
      · obtain ⟨fresh, split⟩ := h.oldest
        simp only [Desk.step, waiting, if_true]
        rw [← split, List.erase_append_right fresh straggles]
        exact List.prefix_append _ _
      · simpa [Desk.step, waiting] using h.oldest
  | reset =>
    refine ⟨List.prefix_rfl, ?_⟩
    simp [Desk.step, Breaker.reset, Breaker.new, Stragglers.next]
  | advance ms => exact h.of_same (by simp) h.oldest

theorem Stragglers.Explain.after {s : Stragglers} {d : Desk} (h : s.Explain d)
    (acts : List Action) : (d.stragglers s acts).Explain (d.after acts) := by
  induction acts generalizing s d with
  | nil => exact h
  | cons a rest ih => exact ih (h.step a)

/-- Whatever is reset while calls are pending, the failures in a row are among the failures, and
these are no more than the calls together with the stragglers that have failed. -/
theorem counters_ordered_up_to_stragglers (name : String) (threshold timeoutMs : Binary64)
    (now : Nat) (acts : List Action) :
    let start := Desk.new (Breaker.new name threshold timeoutMs) now
    let b := (start.after acts).breaker
    b.consecutiveFailures ≤ b.totalFailures ∧
      b.totalFailures ≤ b.totalCalls + (start.stragglers ⟨[], 0⟩ acts).failed := by
  intro start b
  have fresh : Stragglers.Explain ⟨[], 0⟩ start := ⟨List.nil_prefix, Nat.le_refl 0⟩
  have explained := fresh.after acts
  have counted := explained.failures_le
  have fewer := explained.oldest.length_le
  have ordered : (start.after acts).breaker.totalFailures ≤
      (start.after acts).breaker.totalCalls + (start.stragglers ⟨[], 0⟩ acts).failed := by
    omega
  exact ⟨consecutiveFailures_le_after acts (Nat.le_refl 0), ordered⟩

/-- A call that was pending at a reset fails after it: one failure and no call. -/
theorem failures_exceed_calls_after_reset :
    let d := (Desk.new (Breaker.new "b" 1 10) 0).after
      [.start "a", .reset, .settle "a" (.error (.failure (.plain "x")))]
    d.Reachable ∧ ¬ (d.breaker.consecutiveFailures ≤ d.breaker.totalFailures ∧
      d.breaker.totalFailures ≤ d.breaker.totalCalls) := by
  intro d
  refine ⟨⟨"b", 1, 10, 0, _, rfl⟩, ?_⟩
  decide +kernel

end Desk

end JobWatch.Breaker
