import JobWatch.Failure

/-!
A breaker guards round trips to the broker. After a number of failures in a row it opens and
refuses calls until some time has passed since the latest failure; the next call then probes
the broker. The breaker is told when a call wants to start and how it ended, so that calls may
overlap.
-/
namespace JobWatch

inductive Circuit where
  | closed
  | opened
  /-- A probe is on its way. -/
  | halfOpen
deriving DecidableEq, Repr

namespace Circuit

def name : Circuit → String
  | closed => "closed"
  | opened => "open"
  | halfOpen => "half_open"

end Circuit

structure Breaker where
  name : String
  /-- How many failures in a row open the breaker. -/
  threshold : Binary64
  /-- How many milliseconds after the latest failure a call is let through. -/
  timeoutMs : Binary64
  circuit : Circuit
  consecutiveFailures : Nat
  totalCalls : Nat
  totalFailures : Nat
  /-- When the latest failure was settled, in milliseconds since 1970; zero if there was none. -/
  lastFailure : Nat
deriving DecidableEq, Repr

namespace Breaker

def new (name : String) (threshold timeoutMs : Binary64) : Breaker :=
  ⟨name, threshold, timeoutMs, .closed, 0, 0, 0, 0⟩

/-- Enough time has passed since the latest failure. -/
def isRested (b : Breaker) (now : Nat) : Bool := b.timeoutMs.atMost ((now : Int) - b.lastFailure)

/-- The breaker refuses a call that wants to start now. -/
def refuses (b : Breaker) (now : Nat) : Bool := b.circuit == .opened && !b.isRested now

/-- A call that is not refused has started. -/
def letThrough (b : Breaker) : Breaker :=
  { b with
    circuit := if b.circuit = .opened then .halfOpen else b.circuit
    totalCalls := b.totalCalls + 1 }

/-- A call wants to start: the breaker after its start, or nothing if it is refused. -/
def start? (b : Breaker) (now : Nat) : Option Breaker :=
  if b.refuses now then none else some b.letThrough

def succeed (b : Breaker) : Breaker := { b with circuit := .closed, consecutiveFailures := 0 }

/-- Enough failures in a row to open. -/
def isTripped (b : Breaker) (failures : Nat) : Bool := b.threshold.atMost failures

/-- A call has failed. A probe that fails opens the breaker at once. -/
def fail (b : Breaker) (now : Nat) : Breaker :=
  let failures := b.consecutiveFailures + 1
  { b with
    circuit := if b.circuit = .halfOpen ∨ b.isTripped failures then .opened else b.circuit
    consecutiveFailures := failures
    totalFailures := b.totalFailures + 1
    lastFailure := now }

def settle (b : Breaker) (now : Nat) (succeeded : Bool) : Breaker :=
  if succeeded then b.succeed else b.fail now

def reset (b : Breaker) : Breaker := new b.name b.threshold b.timeoutMs

/-- What a refused call fails with. -/
def refusal (b : Breaker) : Failure := .breakerOpen b.name

end Breaker

end JobWatch
