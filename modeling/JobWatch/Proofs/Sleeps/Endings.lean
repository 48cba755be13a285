import JobWatch.Proofs.Sleeps.Moves
import Mathlib.Data.List.Perm.Basic

/-!
# What is seen of the endings

Every sleep that ends is seen to end once, with its name and the time at which it ended, and
nothing else is seen to end.
-/

namespace JobWatch.Sleeps

/-- The ending of a sleep, as it has been seen. -/
def Sleep.ending? (s : Sleep) : Option Sight :=
  if s.status = .pending then none else some (.settled s.id s.since)

def Sight.isEnding : Sight → Bool
  | .timer _ => false
  | .settled _ _ => true

/-- Where one item of a list turns into one that counts, the items that count are one more. -/
theorem perm_filterMap_set {α β : Type} {f : α → Option β} {items : List α} {i : Nat} {x y : α}
    {b : β} (found : items[i]? = some x) (old : f x = none) (new : f y = some b) :
    (items.filterMap f ++ [b]).Perm ((items.set i y).filterMap f) := by
  induction items generalizing i with
  | nil => cases found
  | cons first rest ih =>
    cases i with
    | zero =>
      rw [List.getElem?_cons_zero, Option.some.injEq] at found
      subst found
      rw [List.set_cons_zero, List.filterMap_cons_none old, List.filterMap_cons_some new]
      exact List.perm_append_comm
    | succ i =>
      rw [List.getElem?_cons_succ] at found
      rw [List.set_cons_succ]
      cases head : f first with
      | none =>
        rw [List.filterMap_cons_none head, List.filterMap_cons_none head]
        exact ih found
      | some c =>
        rw [List.filterMap_cons_some head, List.filterMap_cons_some head]
        exact (ih found).cons c

namespace Dormitory

variable {d d' d'' : Dormitory}

/-- The endings that are seen during a move are those of the sleeps that end in it. -/
def Tells (d : Dormitory) (moved : Dormitory × List Sight) : Prop :=
  (d.sleeps.filterMap Sleep.ending? ++ moved.2.filter Sight.isEnding).Perm
    (moved.1.sleeps.filterMap Sleep.ending?)

theorem Tells.none (same : d'.sleeps = d.sleeps) : d.Tells (d', []) := by
  unfold Tells
  rw [same, List.filter_nil, List.append_nil]

theorem Tells.trans {first later : List Sight} (h : d.Tells (d', first))
    (h' : d'.Tells (d'', later)) : d.Tells (d'', first ++ later) := by
  unfold Tells at *
  rw [List.filter_append, ← List.append_assoc]
  exact (h.append_right _).trans h'

theorem Tells.of_sleeps {moved : Dormitory × List Sight} (h : d'.Tells moved)
    (same : d'.sleeps = d.sleeps) : d.Tells moved := by
  unfold Tells at *
  rw [← same]
  exact h

theorem tells_settle (d : Dormitory) (place : Nat) {status : Status} (ends : status ≠ .pending) :
    d.Tells (d.settle place status) := by
  cases found : d.sleeps[place]? with
  | none =>
    have unknown : d.settle place status = (d, []) := by simp only [settle, found]
    rw [unknown]
    exact .none rfl
  | some s =>
    by_cases pending : s.status = .pending
    · rw [settle_pending found pending]
      exact perm_filterMap_set found (by rw [Sleep.ending?, if_pos pending])
        (by rw [Sleep.ending?, if_neg ends])
    · rw [settle_ended found pending]
      exact .none rfl

theorem tells_goOff (d : Dormitory) (t : Timer) : d.Tells (d.goOff t) := by
  let last := ((d.wake t.due).clearTimer t.place).stopListening t.place
  have told : last.Tells (last.settle t.place .done) := tells_settle last t.place nofun
  exact told.of_sleeps rfl

theorem tells_abortAll (d : Dormitory) (places : List Nat) : d.Tells (d.abortAll places) := by
  induction places generalizing d with
  | nil => exact .none rfl
  | cons first rest ih =>
    have told : (d.clearTimer first).Tells ((d.clearTimer first).settle first .aborted) :=
      tells_settle (d.clearTimer first) first nofun
    exact (told.of_sleeps rfl).trans (ih _)

theorem tells_runBefore (d : Dormitory) (time timers : Nat) :
    d.Tells (d.runBefore time timers) := by
  induction timers generalizing d with
  | zero => exact .none rfl
  | succ timers ih =>
    unfold runBefore
    cases nextTimer? d.timers with
    | none => exact .none rfl
    | some t =>
      by_cases due : t.due < time
      · simp only [if_pos due]
        exact (tells_goOff d t).trans (ih _)
      · simp only [if_neg due]
        exact .none rfl

theorem tells_start (d : Dormitory) (id : String) (ms : Binary64) (signal : Option String) :
    d.Tells (d.start id ms signal) := by
  let begun : Dormitory := { d with sleeps := d.sleeps ++ [⟨id, signal, .pending, d.now⟩] }
  -- a sleep that has just begun has no ending yet
  have same : begun.sleeps.filterMap Sleep.ending? = d.sleeps.filterMap Sleep.ending? := by
    rw [List.filterMap_append, List.filterMap_cons_none rfl, List.filterMap_nil, List.append_nil]
  by_cases raised : d.isRaised signal = true
  · have told : begun.Tells (begun.settle d.sleeps.length .aborted) :=
      tells_settle begun d.sleeps.length nofun
    unfold Tells at told
    rw [same] at told
    rw [start_of_raised raised]
    exact told
  · rw [start_of_clear raised]
    unfold Tells
    rw [List.filter_cons_of_neg (by simp [Sight.isEnding]), List.filter_nil, List.append_nil]
    exact List.Perm.of_eq same.symm

theorem tells_step (d : Dormitory) (a : Action) : d.Tells (d.step a) := by
  cases a with
  | start id ms signal => exact tells_start d id ms signal
  | abort name =>
    change d.Tells (d.abort name)
    by_cases raised : d.raised.contains name = true
    · rw [abort_of_raised raised]
      exact .none rfl
    · rw [abort_of_clear raised]
      exact (tells_abortAll _ _).of_sleeps rfl
  | advance ms => exact tells_runBefore d _ _
  | approach ms => exact tells_runBefore d _ _
  | goOff place =>
    change d.Tells (d.ring place)
    rcases ring_cases d place with idle | ⟨t, _, _, _, rang⟩
    · rw [idle]
      exact .none rfl
    · rw [rang]
      exact tells_goOff d t

theorem tells_seen (d : Dormitory) (actions : List Action) :
    d.Tells (d.after actions, d.seen actions) := by
  induction actions generalizing d with
  | nil => exact .none rfl
  | cons a rest ih => exact (tells_step d a).trans (ih _)

end Dormitory

end JobWatch.Sleeps
