import JobWatch.Breaker

/-!
Overlapping calls under one breaker: starts, ends, moves of the clock and resets in any order.
A call is known by its id from its start to its end.
-/
namespace JobWatch.Breaker

/-- How a guarded call ends. -/
abbrev Ending := Except Thrown Value

inductive Action where
  /-- A call that starts and ends at once. -/
  | execute (ending : Ending)
  | start (id : String)
  | settle (id : String) (ending : Ending)
  | reset
  | advance (ms : Nat)
deriving Repr

/-- What is seen of an action. -/
inductive Sight where
  /-- The guarded function runs. -/
  | called
  | settled (id : String) (ending : Ending)
deriving Repr

/-- What an action comes to for the one who takes it. -/
inductive Answer where
  | done
  | ended (ending : Ending)
  /-- No call of this id has ever started. -/
  | notStarted
deriving Repr

structure Desk where
  breaker : Breaker
  now : Nat
  /-- The ids of the calls that have started and not ended. -/
  pending : List String
  /-- The ids of the calls that have ended. -/
  ended : List String
deriving DecidableEq, Repr

namespace Desk

def new (b : Breaker) (now : Nat) : Desk := ⟨b, now, [], []⟩

def isSuccess : Ending → Bool
  | .ok _ => true
  | .error _ => false

def refusal (d : Desk) : Ending := .error (.failure d.breaker.refusal)

/-- Takes an action. -/
def step (d : Desk) : Action → Desk × Answer × List Sight
  | .execute ending =>
    match d.breaker.start? d.now with
    | none => (d, .ended d.refusal, [])
    | some b => ({ d with breaker := b.settle d.now (isSuccess ending) }, .ended ending, [.called])
  | .start id =>
    match d.breaker.start? d.now with
    | none => (d, .done, [.settled id d.refusal])
    | some b => ({ d with breaker := b, pending := d.pending ++ [id] }, .done, [.called])
  | .settle id ending =>
    if id ∈ d.pending then
      ({ d with
          breaker := d.breaker.settle d.now (isSuccess ending)
          pending := d.pending.erase id
          ended := id :: d.ended },
        .done, [.settled id ending])
    else (d, if id ∈ d.ended then .done else .notStarted, [])
  | .reset => ({ d with breaker := d.breaker.reset }, .done, [])
  | .advance ms => ({ d with now := d.now + ms }, .done, [])

end Desk

end JobWatch.Breaker
