import JobWatch.Breaker.Overlap
import JobWatch.Proofs.Number.Order

/-!
# The history of overlapping calls

What a breaker has gone through is a list of settlements: when a call ended and whether it
succeeded. Starts leave no entry. The count of failures in a row and the time of the latest
failure are functions of this list, and the two of them decide every later refusal, whatever
calls are still pending. No assumption is made on the threshold or the timeout, so a threshold
that is negative or no number at all is covered.
-/

namespace JobWatch.Breaker

/-! ## What holds at any time -/

/-- Failures in a row have been counted, and they are enough to open. -/
def IsDown (b : Breaker) : Prop :=
  0 < b.consecutiveFailures ∧ b.isTripped b.consecutiveFailures = true

/-- The invariant of every run: the circuit tells whether the breaker is down, a probe is only on
its way once the rest is over, and no failure lies in the future. -/
structure Consistent (b : Breaker) (now : Nat) : Prop where
  down_iff : b.IsDown ↔ b.circuit ≠ .closed
  rested : b.circuit = .halfOpen → b.isRested now = true
  past : b.lastFailure ≤ now

theorem isTripped_mono {b : Breaker} {m n : Nat} (le : m ≤ n) (h : b.isTripped m = true) :
    b.isTripped n = true :=
  Binary64.atMost_mono (by omega) h

theorem isRested_mono {b : Breaker} {now later : Nat} (le : now ≤ later)
    (h : b.isRested now = true) : b.isRested later = true :=
  Binary64.atMost_mono (by omega) h

@[simp]
theorem isDown_letThrough (b : Breaker) : b.letThrough.IsDown ↔ b.IsDown := Iff.rfl

@[simp]
theorem isRested_letThrough (b : Breaker) (now : Nat) :
    b.letThrough.isRested now = b.isRested now := rfl

theorem consistent_new (name : String) (threshold timeoutMs : Binary64) (now : Nat) :
    (new name threshold timeoutMs).Consistent now := by
  refine ⟨?_, ?_, Nat.zero_le _⟩
  · simp [new, IsDown]
  · intro half
    cases half

theorem Consistent.later {b : Breaker} {now later : Nat} (h : b.Consistent now)
    (le : now ≤ later) : b.Consistent later :=
  ⟨h.down_iff, fun half => isRested_mono le (h.rested half), Nat.le_trans h.past le⟩

theorem Consistent.letThrough {b : Breaker} {now : Nat} (h : b.Consistent now)
    (passes : b.refuses now = false) : b.letThrough.Consistent now := by
  by_cases opened : b.circuit = .opened
  · have down : b.IsDown := h.down_iff.mpr (by simp [opened])
    have rested : b.isRested now = true := by simpa [refuses, opened] using passes
    have probes : b.letThrough.circuit = .halfOpen := by simp [Breaker.letThrough, opened]
    refine ⟨?_, fun _ => rested, h.past⟩
    rw [isDown_letThrough, probes]
    simp [down]
  · have same : b.letThrough.circuit = b.circuit := by simp [Breaker.letThrough, opened]
    refine ⟨?_, ?_, h.past⟩
    · rw [isDown_letThrough, same]
      exact h.down_iff
    · rw [isRested_letThrough, same]
      exact h.rested

theorem Consistent.succeed {b : Breaker} {now : Nat} (h : b.Consistent now) :
    b.succeed.Consistent now := by
  refine ⟨?_, ?_, h.past⟩
  · simp [Breaker.succeed, IsDown]
  · intro half
    cases half

/-- A failure leaves no probe behind: the breaker is open after it or was closed all along. -/
theorem Consistent.fail {b : Breaker} {now : Nat} (h : b.Consistent now) :
    (b.fail now).Consistent now := by
  by_cases tripped : b.isTripped (b.consecutiveFailures + 1) = true
  · have opens : (b.fail now).circuit = .opened := by simp [Breaker.fail, tripped]
    have down : (b.fail now).IsDown := ⟨Nat.succ_pos _, tripped⟩
    refine ⟨?_, ?_, Nat.le_refl _⟩
    · simp [down, opens]
    · simp [opens]
  · have up : ¬ b.IsDown := fun down => tripped (isTripped_mono (Nat.le_succ _) down.2)
    have closed : b.circuit = .closed := by
      cases circuit : b.circuit with
      | closed => rfl
      | opened => exact absurd (h.down_iff.mpr (by simp [circuit])) up
      | halfOpen => exact absurd (h.down_iff.mpr (by simp [circuit])) up
    have stays : (b.fail now).circuit = .closed := by simp [Breaker.fail, tripped, closed]
    have still : ¬ (b.fail now).IsDown := fun down => tripped down.2
    refine ⟨?_, ?_, Nat.le_refl _⟩
    · simp [still, stays]
    · simp [stays]

theorem Consistent.settle {b : Breaker} {now : Nat} (h : b.Consistent now) (succeeded : Bool) :
    (b.settle now succeeded).Consistent now := by
  cases succeeded with
  | true => exact h.succeed
  | false => exact h.fail

/-- Refusals depend on the failures in a row and the latest of them alone. -/
theorem Consistent.refuses_iff {b : Breaker} {now : Nat} (h : b.Consistent now) :
    b.refuses now = true ↔ b.IsDown ∧ b.isRested now = false := by
  rw [h.down_iff]
  cases circuit : b.circuit with
  | closed => simp [refuses, circuit]
  | opened => simp [refuses, circuit]
  | halfOpen => simp [refuses, circuit, h.rested circuit]

/-! ## Runs and their histories -/

/-- A call has ended. -/
structure Settlement where
  time : Nat
  succeeded : Bool
deriving DecidableEq, Repr

/-- How many failures in a row there are after these settlements, if there were `n` before. -/
def failuresInRow (n : Nat) : List Settlement → Nat
  | [] => n
  | e :: rest => failuresInRow (if e.succeeded then 0 else n + 1) rest

/-- When the latest failure was after these settlements, if it was at `time` before. -/
def latestFailure (time : Nat) : List Settlement → Nat
  | [] => time
  | e :: rest => latestFailure (if e.succeeded then time else e.time) rest

theorem failuresInRow_of_failed {es : List Settlement} (n : Nat)
    (failed : ∀ e ∈ es, e.succeeded = false) : failuresInRow n es = n + es.length := by
  induction es generalizing n with
  | nil => rfl
  | cons e rest ih =>
    have tail := ih (n + 1) (fun e he => failed e (List.mem_cons_of_mem _ he))
    simp only [failuresInRow, failed e List.mem_cons_self, List.length_cons]
    simp only [Bool.false_eq_true, if_false, tail]
    omega

/-- What was counted before a success does not matter after it. -/
theorem failuresInRow_of_succeeded {es : List Settlement} (m n : Nat)
    (succeeded : ∃ e ∈ es, e.succeeded = true) : failuresInRow m es = failuresInRow n es := by
  induction es generalizing m n with
  | nil =>
    obtain ⟨e, he, _⟩ := succeeded
    cases he
  | cons e rest ih =>
    cases first : e.succeeded with
    | true => simp [failuresInRow, first]
    | false =>
      obtain ⟨e', he', hs⟩ := succeeded
      rcases List.mem_cons.mp he' with rfl | later
      · rw [first] at hs
        cases hs
      · simpa [failuresInRow, first] using ih (m + 1) (n + 1) ⟨e', later, hs⟩

theorem latestFailure_mem (time : Nat) (es : List Settlement) :
    latestFailure time es = time ∨
      ∃ e ∈ es, e.succeeded = false ∧ e.time = latestFailure time es := by
  induction es generalizing time with
  | nil => exact Or.inl rfl
  | cons e rest ih =>
    rcases ih (if e.succeeded then time else e.time) with kept | ⟨e', later, failed, same⟩
    · cases first : e.succeeded with
      | true => exact Or.inl (by simpa [latestFailure, first] using kept)
      | false =>
        refine Or.inr ⟨e, List.mem_cons_self, first, ?_⟩
        simpa [latestFailure, first] using kept.symm
    · exact Or.inr ⟨e', List.mem_cons_of_mem _ later, failed, same⟩

theorem failuresInRow_append (n : Nat) (es later : List Settlement) :
    failuresInRow n (es ++ later) = failuresInRow (failuresInRow n es) later := by
  induction es generalizing n with
  | nil => rfl
  | cons e rest ih => exact ih (if e.succeeded then 0 else n + 1)

theorem latestFailure_append (time : Nat) (es later : List Settlement) :
    latestFailure time (es ++ later) = latestFailure (latestFailure time es) later := by
  induction es generalizing time with
  | nil => rfl
  | cons e rest ih => exact ih (if e.succeeded then time else e.time)

/-- The breaker after a settlement, or the same breaker if there is none. -/
def record (b : Breaker) : Option Settlement → Breaker
  | none => b
  | some e => b.settle e.time e.succeeded

theorem record_consecutiveFailures (b : Breaker) (e : Option Settlement) :
    (b.record e).consecutiveFailures = failuresInRow b.consecutiveFailures e.toList := by
  cases e with
  | none => rfl
  | some e => cases h : e.succeeded <;> simp [record, settle, succeed, fail, failuresInRow, h]

theorem record_lastFailure (b : Breaker) (e : Option Settlement) :
    (b.record e).lastFailure = latestFailure b.lastFailure e.toList := by
  cases e with
  | none => rfl
  | some e => cases h : e.succeeded <;> simp [record, settle, succeed, fail, latestFailure, h]

/-- The two breakers were set up with the same settings. -/
def SameSettings (b b' : Breaker) : Prop :=
  b'.name = b.name ∧ b'.threshold = b.threshold ∧ b'.timeoutMs = b.timeoutMs

theorem SameSettings.trans {a b c : Breaker} (first : a.SameSettings b)
    (second : b.SameSettings c) : a.SameSettings c := by
  obtain ⟨name, threshold, timeoutMs⟩ := first
  obtain ⟨name', threshold', timeoutMs'⟩ := second
  exact ⟨name'.trans name, threshold'.trans threshold, timeoutMs'.trans timeoutMs⟩

theorem sameSettings_record (b : Breaker) (e : Option Settlement) :
    b.SameSettings (b.record e) := by
  cases e with
  | none => exact ⟨rfl, rfl, rfl⟩
  | some e => cases h : e.succeeded <;> simp [SameSettings, record, settle, succeed, fail, h]

namespace Desk

/-- The settlement that an action brings about, if it does. -/
def settlement? (d : Desk) : Action → Option Settlement
  | .execute ending => if d.breaker.refuses d.now then none else some ⟨d.now, isSuccess ending⟩
  | .settle id ending => if id ∈ d.pending then some ⟨d.now, isSuccess ending⟩ else none
  | _ => none

/-- The desk after a run. -/
def after (d : Desk) : List Action → Desk
  | [] => d
  | a :: rest => (d.step a).1.after rest

/-- The settlements of a run, in order. -/
def history (d : Desk) : List Action → List Settlement
  | [] => []
  | a :: rest => (d.settlement? a).toList ++ (d.step a).1.history rest

/-- All that an action can do to a breaker: set it up anew, or let a call through or not and then
record the settlement, if there is one. -/
theorem step_cases (d : Desk) (a : Action) :
    (a = .reset ∧ (d.step a).1.breaker = d.breaker.reset) ∨
      ∃ b, (b = d.breaker ∨ d.breaker.refuses d.now = false ∧ b = d.breaker.letThrough) ∧
        (d.step a).1.breaker = b.record (d.settlement? a) := by
  cases a with
  | execute ending =>
    cases refused : d.breaker.refuses d.now with
    | true =>
      refine Or.inr ⟨d.breaker, Or.inl rfl, ?_⟩
      simp [step, start?, settlement?, refused, record]
    | false =>
      refine Or.inr ⟨d.breaker.letThrough, Or.inr ⟨rfl, rfl⟩, ?_⟩
      simp [step, start?, settlement?, refused, record]
  | start id =>
    cases refused : d.breaker.refuses d.now with
    | true =>
      refine Or.inr ⟨d.breaker, Or.inl rfl, ?_⟩
      simp [step, start?, settlement?, refused, record]
    | false =>
      refine Or.inr ⟨d.breaker.letThrough, Or.inr ⟨rfl, rfl⟩, ?_⟩
      simp [step, start?, settlement?, refused, record]
  | settle id ending =>
    refine Or.inr ⟨d.breaker, Or.inl rfl, ?_⟩
    by_cases waiting : id ∈ d.pending <;> simp [step, settlement?, waiting, record]
  | reset => exact Or.inl ⟨rfl, rfl⟩
  | advance ms => exact Or.inr ⟨d.breaker, Or.inl rfl, rfl⟩

theorem now_le_step (d : Desk) (a : Action) : d.now ≤ (d.step a).1.now := by
  cases a with
  | execute ending => cases refused : d.breaker.refuses d.now <;> simp [step, start?, refused]
  | start id => cases refused : d.breaker.refuses d.now <;> simp [step, start?, refused]
  | settle id ending => by_cases waiting : id ∈ d.pending <;> simp [step, waiting]
  | reset => exact Nat.le_refl _
  | advance ms => exact Nat.le_add_right _ _

/-- A settlement happens at the time of the desk. -/
theorem settlement_time {d : Desk} {a : Action} {e : Settlement} (h : d.settlement? a = some e) :
    e.time = d.now := by
  cases a with
  | execute ending =>
    simp only [settlement?, Option.ite_none_left_eq_some, Option.some.injEq] at h
    exact h.2 ▸ rfl
  | settle id ending =>
    simp only [settlement?, Option.ite_none_right_eq_some, Option.some.injEq] at h
    exact h.2 ▸ rfl
  | start id => cases h
  | reset => cases h
  | advance ms => cases h

theorem consistent_step {d : Desk} (a : Action) (h : d.breaker.Consistent d.now) :
    (d.step a).1.breaker.Consistent (d.step a).1.now := by
  have settled : (d.step a).1.breaker.Consistent d.now := by
    rcases d.step_cases a with ⟨_, reset⟩ | ⟨b, origin, recorded⟩
    · rw [reset]
      exact consistent_new _ _ _ _
    · have through : b.Consistent d.now := by
        rcases origin with rfl | ⟨passes, rfl⟩
        · exact h
        · exact h.letThrough passes
      rw [recorded]
      cases he : d.settlement? a with
      | none => exact through
      | some e =>
        have same := through.settle e.succeeded
        rwa [← settlement_time he] at same ⊢
  exact settled.later (d.now_le_step a)

theorem consecutiveFailures_step {d : Desk} {a : Action} (h : a ≠ .reset) :
    (d.step a).1.breaker.consecutiveFailures =
      failuresInRow d.breaker.consecutiveFailures (d.settlement? a).toList := by
  rcases d.step_cases a with ⟨reset, _⟩ | ⟨b, origin, recorded⟩
  · exact absurd reset h
  · rw [recorded, record_consecutiveFailures]
    rcases origin with rfl | ⟨_, rfl⟩ <;> rfl

theorem lastFailure_step {d : Desk} {a : Action} (h : a ≠ .reset) :
    (d.step a).1.breaker.lastFailure =
      latestFailure d.breaker.lastFailure (d.settlement? a).toList := by
  rcases d.step_cases a with ⟨reset, _⟩ | ⟨b, origin, recorded⟩
  · exact absurd reset h
  · rw [recorded, record_lastFailure]
    rcases origin with rfl | ⟨_, rfl⟩ <;> rfl

theorem sameSettings_step (d : Desk) (a : Action) :
    d.breaker.SameSettings (d.step a).1.breaker := by
  rcases d.step_cases a with ⟨_, reset⟩ | ⟨b, origin, recorded⟩
  · rw [reset]
    exact ⟨rfl, rfl, rfl⟩
  · rw [recorded]
    rcases origin with rfl | ⟨_, rfl⟩
    · exact sameSettings_record _ _
    · exact sameSettings_record d.breaker.letThrough _

theorem consistent_after {d : Desk} (acts : List Action) (h : d.breaker.Consistent d.now) :
    (d.after acts).breaker.Consistent (d.after acts).now := by
  induction acts generalizing d with
  | nil => exact h
  | cons a rest ih => exact ih (consistent_step a h)

theorem now_le_after (d : Desk) (acts : List Action) : d.now ≤ (d.after acts).now := by
  induction acts generalizing d with
  | nil => exact Nat.le_refl _
  | cons a rest ih => exact Nat.le_trans (d.now_le_step a) (ih (d.step a).1)

theorem sameSettings_after (d : Desk) (acts : List Action) :
    d.breaker.SameSettings (d.after acts).breaker := by
  induction acts generalizing d with
  | nil => exact ⟨rfl, rfl, rfl⟩
  | cons a rest ih => exact (d.sameSettings_step a).trans (ih (d.step a).1)

/-- The failures in a row are those of the history since any earlier desk. -/
theorem consecutiveFailures_after (d : Desk) {acts : List Action} (unreset : .reset ∉ acts) :
    (d.after acts).breaker.consecutiveFailures =
      failuresInRow d.breaker.consecutiveFailures (d.history acts) := by
  induction acts generalizing d with
  | nil => rfl
  | cons a rest ih =>
    obtain ⟨first, later⟩ := List.ne_and_not_mem_of_not_mem_cons unreset
    rw [after, ih (d.step a).1 later, history, failuresInRow_append,
      consecutiveFailures_step (Ne.symm first)]

theorem lastFailure_after (d : Desk) {acts : List Action} (unreset : .reset ∉ acts) :
    (d.after acts).breaker.lastFailure =
      latestFailure d.breaker.lastFailure (d.history acts) := by
  induction acts generalizing d with
  | nil => rfl
  | cons a rest ih =>
    obtain ⟨first, later⟩ := List.ne_and_not_mem_of_not_mem_cons unreset
    rw [after, ih (d.step a).1 later, history, latestFailure_append,
      lastFailure_step (Ne.symm first)]

theorem lastFailure_le_step {d : Desk} {a : Action} (h : d.breaker.Consistent d.now)
    (unreset : a ≠ .reset) : d.breaker.lastFailure ≤ (d.step a).1.breaker.lastFailure := by
  rw [lastFailure_step unreset]
  cases he : d.settlement? a with
  | none => exact Nat.le_refl _
  | some e =>
    have past := h.past
    have time := settlement_time he
    cases failed : e.succeeded with
    | true => simp [latestFailure, failed]
    | false =>
      simp only [latestFailure, Option.toList_some, failed, Bool.false_eq_true, if_false]
      omega

theorem lastFailure_le_after {d : Desk} {acts : List Action} (h : d.breaker.Consistent d.now)
    (unreset : .reset ∉ acts) : d.breaker.lastFailure ≤ (d.after acts).breaker.lastFailure := by
  induction acts generalizing d with
  | nil => exact Nat.le_refl _
  | cons a rest ih =>
    obtain ⟨first, later⟩ := List.ne_and_not_mem_of_not_mem_cons unreset
    exact Nat.le_trans (lastFailure_le_step h (Ne.symm first)) (ih (consistent_step a h) later)

/-- No failure of a run is later than the latest one that the breaker knows of. -/
theorem time_le_lastFailure {d : Desk} {acts : List Action} (h : d.breaker.Consistent d.now)
    (unreset : .reset ∉ acts) {e : Settlement} (he : e ∈ d.history acts)
    (failed : e.succeeded = false) : e.time ≤ (d.after acts).breaker.lastFailure := by
  induction acts generalizing d with
  | nil => cases he
  | cons a rest ih =>
    obtain ⟨first, later⟩ := List.ne_and_not_mem_of_not_mem_cons unreset
    rcases List.mem_append.mp he with now | tail
    · have settled : d.settlement? a = some e := Option.mem_toList.mp now
      have known : (d.step a).1.breaker.lastFailure = e.time := by
        rw [lastFailure_step (Ne.symm first), settled]
        simp [latestFailure, failed]
      rw [← known]
      exact lastFailure_le_after (consistent_step a h) later
    · exact ih (consistent_step a h) later tail

/-- A desk that a run from a new breaker can come to. -/
def Reachable (d : Desk) : Prop :=
  ∃ name threshold timeoutMs now acts,
    d = (Desk.new (Breaker.new name threshold timeoutMs) now).after acts

theorem Reachable.consistent {d : Desk} (h : d.Reachable) : d.breaker.Consistent d.now := by
  obtain ⟨name, threshold, timeoutMs, now, acts, rfl⟩ := h
  exact consistent_after acts (consistent_new name threshold timeoutMs now)

end Desk

end JobWatch.Breaker
