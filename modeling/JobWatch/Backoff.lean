import JobWatch.Run.Pause

/-!
A budget of attempts with the same pause between any two of them.
-/
namespace JobWatch

structure Backoff where
  limit : Binary64
  delayMs : Binary64
  attempts : Nat
deriving DecidableEq, Repr

namespace Backoff

def new (limit delayMs : Binary64) : Backoff := ⟨limit, delayMs, 0⟩

/-- Nothing of the budget is left. -/
def isExhausted (b : Backoff) : Bool := b.limit.atMost b.attempts

/-- An attempt has failed. -/
def fail (b : Backoff) : Backoff := { b with attempts := b.attempts + 1 }

/-- Waits before the next attempt, unless the run has been aborted. -/
def pause {σ : Type} (b : Backoff) (sleep : Sleeper σ) : Run σ Unit := do
  Run.throwIfAborted
  sleep b.delayMs

end Backoff

end JobWatch
