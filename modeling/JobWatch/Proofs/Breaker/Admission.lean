import JobWatch.Proofs.Breaker.History

/-!
# Which calls are let through

Calls that overlap are admitted or refused at their start, while calls admitted earlier may still
settle. The two main statements say exactly when a call is refused while a probe is on its way,
and when one is refused during the rest after a failure that opened the breaker. Neither of them
is always: a breaker that waits for its probe refuses nobody, and the late success of an old call
ends the rest. What the broker makes of the calls is left open.
-/

namespace JobWatch.Breaker

/-- The action begins a call. -/
def Action.beginsCall : Action → Bool
  | .start _ => true
  | .execute _ => true
  | _ => false

/-- The settlements leave a breaker down that was down before them: none of them is a success, or
those behind the latest success are enough to open. -/
def KeepsDown (threshold : Binary64) (es : List Settlement) : Prop :=
  (∀ e ∈ es, e.succeeded = false) ∨
    0 < failuresInRow 0 es ∧ threshold.atMost (failuresInRow 0 es) = true

namespace Desk

/-- The function of the call that the action begins is run. -/
def Reaches (d : Desk) (a : Action) : Prop := .called ∈ (d.step a).2.2

/-- The call that the action begins fails with the refusal of the breaker, and nothing else is
seen or changed. -/
def Refuses (d : Desk) : Action → Prop
  | .start id =>
    d.step (.start id) = (d, .done, [.settled id (.error (.failure (.breakerOpen d.breaker.name)))])
  | .execute ending =>
    d.step (.execute ending) = (d, .ended (.error (.failure (.breakerOpen d.breaker.name))), [])
  | _ => False

theorem refuses_iff {d : Desk} {a : Action} (call : a.beginsCall = true) :
    d.Refuses a ↔ d.breaker.refuses d.now = true := by
  cases a with
  | start id =>
    cases h : d.breaker.refuses d.now with
    | true => simp [Refuses, step, start?, h, refusal, Breaker.refusal]
    | false => simp [Refuses, step, start?, h]
  | execute ending =>
    cases h : d.breaker.refuses d.now with
    | true => simp [Refuses, step, start?, h, refusal, Breaker.refusal]
    | false => simp [Refuses, step, start?, h]
  | settle id ending => cases call
  | reset => cases call
  | advance ms => cases call

theorem reaches_iff {d : Desk} {a : Action} (call : a.beginsCall = true) :
    d.Reaches a ↔ ¬ d.Refuses a := by
  rw [refuses_iff call]
  cases a with
  | start id => cases h : d.breaker.refuses d.now <;> simp [Reaches, step, start?, h]
  | execute ending => cases h : d.breaker.refuses d.now <;> simp [Reaches, step, start?, h]
  | settle id ending => cases call
  | reset => cases call
  | advance ms => cases call

/-- Whether a breaker that was down still is depends on the settlements since then alone. -/
theorem isDown_after_iff {d : Desk} {acts : List Action} (down : d.breaker.IsDown)
    (unreset : .reset ∉ acts) :
    (d.after acts).breaker.IsDown ↔ KeepsDown d.breaker.threshold (d.history acts) := by
  have count := d.consecutiveFailures_after unreset
  have threshold := (d.sameSettings_after acts).2.1
  rw [IsDown, isTripped, count, threshold]
  by_cases failed : ∀ e ∈ d.history acts, e.succeeded = false
  · have more := failuresInRow_of_failed d.breaker.consecutiveFailures failed
    have trips : d.breaker.isTripped (d.breaker.consecutiveFailures + (d.history acts).length)
        = true := isTripped_mono (Nat.le_add_right _ _) down.2
    have counted := down.1
    rw [more]
    refine ⟨fun _ => Or.inl failed, fun _ => ⟨by omega, trips⟩⟩
  · have succeeded : ∃ e ∈ d.history acts, e.succeeded = true := by
      simpa [Classical.not_forall] using failed
    rw [failuresInRow_of_succeeded _ 0 succeeded, KeepsDown]
    exact ⟨Or.inr, fun h => h.resolve_left failed⟩

theorem not_rested_of_time_le {b : Breaker} {now time : Nat}
    (tired : b.timeoutMs.atMost ((now : Int) - time) = false) (le : time ≤ b.lastFailure) :
    b.isRested now = false := by
  apply Bool.eq_false_iff.mpr
  intro rested
  have longer : b.timeoutMs.atMost ((now : Int) - time) = true :=
    Binary64.atMost_mono (by omega) rested
  rw [tired] at longer
  cases longer

/-- A breaker that was rested needs rest again exactly if a failure since then is recent. -/
theorem needs_rest_after_iff {d : Desk} {acts : List Action} (h : d.breaker.Consistent d.now)
    (rested : d.breaker.isRested d.now = true) (unreset : .reset ∉ acts) :
    (d.after acts).breaker.isRested (d.after acts).now = false ↔
      ∃ e ∈ d.history acts, e.succeeded = false ∧
        d.breaker.timeoutMs.atMost (((d.after acts).now : Int) - e.time) = false := by
  have latest := d.lastFailure_after unreset
  have timeout := (d.sameSettings_after acts).2.2
  constructor
  · intro tired
    rcases latestFailure_mem d.breaker.lastFailure (d.history acts) with old | recent
    · have still := isRested_mono (d.now_le_after acts) rested
      rw [isRested, ← timeout, ← old, ← latest] at still
      rw [isRested, still] at tired
      cases tired
    · obtain ⟨e, he, failed, time⟩ := recent
      refine ⟨e, he, failed, ?_⟩
      rwa [isRested, timeout, latest, ← time] at tired
  · rintro ⟨e, he, failed, tired⟩
    rw [← timeout] at tired
    exact not_rested_of_time_le tired (time_le_lastFailure h unreset he failed)

/-- The call moves the breaker from open to half open. -/
def Probes (d : Desk) (call : String) : Prop :=
  d.breaker.circuit = .opened ∧ (d.step (.start call)).1.breaker.circuit = .halfOpen

/-- A call that begins while a probe is on its way, or later, is refused exactly when settlements
since the start of the probe have opened the breaker again and the last failure among them is too
recent for another probe. As long as nothing has settled, and whenever the breaker is half open,
every call is let through like the probe itself. -/
theorem refuses_since_probe_iff {d : Desk} (reachable : d.Reachable) {probe : String}
    (probes : d.Probes probe) {during : List Action} (unreset : .reset ∉ during)
    {a : Action} (call : a.beginsCall = true) :
    let began := (d.step (.start probe)).1
    let current := began.after during
    (current.Refuses a ↔
      KeepsDown d.breaker.threshold (began.history during) ∧
        ∃ e ∈ began.history during, e.succeeded = false ∧
          d.breaker.timeoutMs.atMost ((current.now : Int) - e.time) = false) ∧
      (current.Reaches a ↔ ¬ current.Refuses a) ∧
      (current.breaker.circuit = .halfOpen → current.Reaches a) := by
  intro began current
  have consistent : began.breaker.Consistent began.now :=
    consistent_step (.start probe) reachable.consistent
  have still : current.breaker.Consistent current.now := consistent_after during consistent
  have down : began.breaker.IsDown := consistent.down_iff.mpr (by simp [began, probes.2])
  obtain ⟨_, threshold, timeout⟩ := d.sameSettings_step (.start probe)
  refine ⟨?_, reaches_iff call, ?_⟩
  · rw [refuses_iff call, still.refuses_iff, isDown_after_iff down unreset,
      needs_rest_after_iff consistent (consistent.rested probes.2) unreset, threshold, timeout]
  · intro half
    rw [reaches_iff call, refuses_iff call]
    simp [Breaker.refuses, half]

/-- An old call fails while the probe is on its way, so that a call begun three milliseconds later
is refused. -/
theorem refuses_since_probe_of_stale_failure :
    let broken : Ending := .error (.failure (.plain "x"))
    let d := (Desk.new (Breaker.new "b" 1 10) 0).after
      [.start "s", .start "a", .settle "a" broken, .advance 10]
    let during : List Action := [.settle "s" broken, .advance 3]
    d.Reachable ∧ d.Probes "p" ∧ .reset ∉ during ∧
      ((d.step (.start "p")).1.after during).Refuses (.start "q") := by
  intro broken d during
  have reachable : d.Reachable := ⟨"b", 1, 10, 0, _, rfl⟩
  have probes : d.Probes "p" := by
    refine ⟨?_, ?_⟩ <;> decide +kernel
  have unreset : .reset ∉ during := by simp [during]
  have settled : (d.step (.start "p")).1.history during = [⟨10, false⟩] := by decide +kernel
  refine ⟨reachable, probes, unreset, ?_⟩
  apply (refuses_since_probe_iff reachable probes unreset (a := .start "q") rfl).1.mpr
  rw [settled]
  refine ⟨Or.inl (by simp), ⟨10, false⟩, List.mem_singleton_self _, rfl, ?_⟩
  decide +kernel

/-- A second call begins while the probe is on its way, and the functions of both of them run. -/
theorem second_call_reaches_during_probe :
    let d := (Desk.new (Breaker.new "b" 1 10) 0).after
      [.start "a", .settle "a" (.error (.failure (.plain "x"))), .advance 10]
    let began := (d.step (.start "p")).1
    d.Probes "p" ∧ d.Reaches (.start "p") ∧ "p" ∈ began.pending ∧ began.Reaches (.start "q") := by
  intro d began
  have first : ¬ d.breaker.refuses d.now = true := by decide +kernel
  have second : ¬ began.breaker.refuses began.now = true := by decide +kernel
  refine ⟨⟨?_, ?_⟩, ?_, ?_, ?_⟩
  · decide +kernel
  · decide +kernel
  · exact (reaches_iff rfl).mpr fun refused => first ((refuses_iff rfl).mp refused)
  · decide +kernel
  · exact (reaches_iff rfl).mpr fun refused => second ((refuses_iff rfl).mp refused)

/-- When the failure of a call at some time leaves the breaker open, a call that begins less than
the timeout later is refused exactly when no call has succeeded in the meantime, or enough have
failed since the latest that did. -/
theorem refuses_since_failure_iff {d : Desk} (reachable : d.Reachable) {failure : Action}
    {time : Nat} (failed : d.settlement? failure = some ⟨time, false⟩)
    (opens : (d.step failure).1.breaker.circuit = .opened)
    {during : List Action} (unreset : .reset ∉ during)
    (early : d.breaker.timeoutMs.atMost
      ((((d.step failure).1.after during).now : Int) - time) = false)
    {a : Action} (call : a.beginsCall = true) :
    let opened := (d.step failure).1
    let current := opened.after during
    (current.Refuses a ↔ KeepsDown d.breaker.threshold (opened.history during)) ∧
      (current.Reaches a ↔ ¬ current.Refuses a) := by
  intro opened current
  have consistent : opened.breaker.Consistent opened.now :=
    consistent_step failure reachable.consistent
  have still : current.breaker.Consistent current.now := consistent_after during consistent
  have down : opened.breaker.IsDown := consistent.down_iff.mpr (by simp [opened, opens])
  obtain ⟨_, threshold, timeout⟩ := d.sameSettings_step failure
  have notReset : failure ≠ .reset := by
    rintro rfl
    cases failed
  have known : opened.breaker.lastFailure = time := by
    rw [lastFailure_step notReset, failed]
    rfl
  have tired : current.breaker.isRested current.now = false := by
    rw [← timeout, ← (opened.sameSettings_after during).2.2] at early
    apply not_rested_of_time_le early
    exact known ▸ lastFailure_le_after consistent unreset
  refine ⟨?_, reaches_iff call⟩
  rw [refuses_iff call, still.refuses_iff, isDown_after_iff down unreset, threshold]
  exact and_iff_left tired

/-- Two old calls settle in the meantime, a success and then a failure that opens the breaker
again, so that a call begun before the timeout is refused. -/
theorem refuses_since_failure_of_reopened :
    let broken : Ending := .error (.failure (.plain "x"))
    let d := (Desk.new (Breaker.new "b" 1 10) 0).after [.start "a", .start "s", .start "f"]
    let during : List Action := [.settle "s" (.ok .null), .settle "f" broken, .advance 9]
    let current := (d.step (.settle "a" broken)).1.after during
    d.Reachable ∧ d.settlement? (.settle "a" broken) = some ⟨0, false⟩ ∧
      (d.step (.settle "a" broken)).1.breaker.circuit = .opened ∧ .reset ∉ during ∧
      d.breaker.timeoutMs.atMost ((current.now : Int) - 0) = false ∧
      current.Refuses (.execute (.ok .null)) := by
  intro broken d during current
  have reachable : d.Reachable := ⟨"b", 1, 10, 0, _, rfl⟩
  have failed : d.settlement? (.settle "a" broken) = some ⟨0, false⟩ := by decide +kernel
  have opens : (d.step (.settle "a" broken)).1.breaker.circuit = .opened := by decide +kernel
  have unreset : .reset ∉ during := by simp [during]
  have early : d.breaker.timeoutMs.atMost ((current.now : Int) - (0 : Nat)) = false := by
    decide +kernel
  have settled : (d.step (.settle "a" broken)).1.history during = [⟨0, true⟩, ⟨0, false⟩] := by
    decide +kernel
  refine ⟨reachable, failed, opens, unreset, early, ?_⟩
  apply (refuses_since_failure_iff reachable failed opens unreset early
    (a := .execute (.ok .null)) rfl).1.mpr
  rw [settled]
  refine Or.inr ⟨?_, ?_⟩ <;> decide +kernel

/-- The success of a call admitted earlier ends the rest, so that the next call is let through at
the very time of the failure that opened the breaker. -/
theorem call_reaches_after_stale_success :
    let broken : Ending := .error (.failure (.plain "x"))
    let d := (Desk.new (Breaker.new "b" 1 1000) 0).after [.start "a", .start "b"]
    let opened := (d.step (.settle "a" broken)).1
    let current := opened.after [.settle "b" (.ok (.number 1))]
    opened.breaker.circuit = .opened ∧ current.now = 0 ∧
      current.Reaches (.execute (.ok (.number 2))) := by
  intro broken d opened current
  have passes : ¬ current.breaker.refuses current.now = true := by decide +kernel
  refine ⟨?_, ?_, ?_⟩
  · decide +kernel
  · decide +kernel
  · exact (reaches_iff rfl).mpr fun refused => passes ((refuses_iff rfl).mp refused)

end Desk

end JobWatch.Breaker
