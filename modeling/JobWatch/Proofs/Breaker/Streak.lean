import Mathlib.Data.List.DropRight
import JobWatch.Proofs.Breaker.History

/-!
# What a history says

The count of failures in a row and the time of the latest failure are kept by a breaker step by
step. Here they are read off the history as a whole: the count is the length of what follows the
latest success, and the time is that of the last failure in the list. Nothing is assumed about
the order of the times, so a clock that is set back is covered.
-/

namespace JobWatch.Breaker

def Settlement.failed (e : Settlement) : Bool := !e.succeeded

/-- The failures since the latest success, or since the beginning if there is none. -/
def streak (es : List Settlement) : List Settlement := es.rtakeWhile Settlement.failed

/-- The time of the last failure; zero if there is none. -/
def lastFailedAt (es : List Settlement) : Nat :=
  ((es.filter Settlement.failed).getLast?.map Settlement.time).getD 0

theorem failuresInRow_concat (n : Nat) (es : List Settlement) (e : Settlement) :
    failuresInRow n (es ++ [e]) = if e.succeeded then 0 else failuresInRow n es + 1 := by
  rw [failuresInRow_append]
  rfl

theorem latestFailure_concat (time : Nat) (es : List Settlement) (e : Settlement) :
    latestFailure time (es ++ [e]) = if e.succeeded then latestFailure time es else e.time := by
  rw [latestFailure_append]
  rfl

theorem failuresInRow_eq_length_streak (es : List Settlement) :
    failuresInRow 0 es = (streak es).length := by
  induction es using List.reverseRecOn with
  | nil => rfl
  | append_singleton es e ih =>
    rw [failuresInRow_concat, streak, List.rtakeWhile_concat]
    cases succeeded : e.succeeded with
    | true => simp [Settlement.failed, succeeded]
    | false => simp [Settlement.failed, succeeded, ih, streak]

theorem latestFailure_eq_lastFailedAt (es : List Settlement) :
    latestFailure 0 es = lastFailedAt es := by
  induction es using List.reverseRecOn with
  | nil => rfl
  | append_singleton es e ih =>
    rw [latestFailure_concat, lastFailedAt, List.filter_append]
    cases succeeded : e.succeeded with
    | true => simp [Settlement.failed, succeeded, ih, lastFailedAt]
    | false => simp [Settlement.failed, succeeded]

/-- What has settled has succeeded or failed. -/
theorem length_eq_succeeded_add_failed (es : List Settlement) :
    es.length = es.countP Settlement.succeeded + es.countP Settlement.failed := by
  rw [List.length_eq_countP_add_countP Settlement.succeeded]
  congr 2
  funext e
  cases succeeded : e.succeeded <;> simp [Settlement.failed, succeeded]

/-- Failures in a row are failures. -/
theorem failuresInRow_le (n : Nat) (es : List Settlement) :
    failuresInRow n es ≤ n + es.countP Settlement.failed := by
  induction es generalizing n with
  | nil => exact Nat.le_refl n
  | cons e rest ih =>
    cases succeeded : e.succeeded with
    | true =>
      have tail := ih 0
      simp only [failuresInRow, succeeded, if_true, List.countP_cons, Settlement.failed]
      omega
    | false =>
      have tail := ih (n + 1)
      simp only [failuresInRow, succeeded, Bool.false_eq_true, if_false, List.countP_cons,
        Settlement.failed, Bool.not_false, if_true]
      omega

end JobWatch.Breaker
