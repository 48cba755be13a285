import JobWatch.Delay

/-!
Sleeps that run at the same time, some of them with a signal. A sleep sets a timer and listens to
its signal. The timer ends the sleep and the listening; the signal clears the timer and aborts the
sleep. A sleep that starts with a raised signal is aborted at once and sets no timer.
-/
namespace JobWatch.Sleeps

inductive Status where
  | pending
  | done
  | aborted
deriving DecidableEq, Repr

structure Sleep where
  id : String
  signal : Option String
  status : Status
  /-- The time since which it has this status. -/
  since : Nat
deriving DecidableEq, Repr

/-- A running timer. A sleep is known by its place among all sleeps. -/
structure Timer where
  due : Nat
  place : Nat
deriving DecidableEq, Repr

/-- A sleep that will be told when a signal is raised. -/
structure Listener where
  signal : String
  place : Nat
deriving DecidableEq, Repr

structure Dormitory where
  now : Nat
  /-- The signals raised so far. -/
  raised : List String
  /-- All sleeps in the order of their starts. -/
  sleeps : List Sleep
  /-- The timers that are running, in the order in which they were set. -/
  timers : List Timer
  /-- Who listens, in the order in which they began. -/
  listeners : List Listener
deriving DecidableEq, Repr

/-- What is seen: a timer is set, or a sleep ends. -/
inductive Sight where
  | timer (ms : Binary64)
  | settled (id : String) (time : Nat)
deriving DecidableEq, Repr

/-- The timer that goes off first; of two at the same time the one set first. -/
def nextTimer? : List Timer → Option Timer
  | [] => none
  | t :: rest =>
    match nextTimer? rest with
    | some u => if t.due ≤ u.due then some t else some u
    | none => some t

namespace Dormitory

def new (now : Nat) : Dormitory := ⟨now, [], [], [], []⟩

def isRaised (d : Dormitory) (signal : Option String) : Bool :=
  match signal with
  | some name => d.raised.contains name
  | none => false

/-- A sleep ends. One that has ended already stays as it is. -/
def settle (d : Dormitory) (place : Nat) (status : Status) : Dormitory × List Sight :=
  match d.sleeps[place]? with
  | none => (d, [])
  | some s =>
    if s.status = .pending then
      ({ d with sleeps := d.sleeps.set place { s with status, since := d.now } },
        [.settled s.id d.now])
    else (d, [])

def clearTimer (d : Dormitory) (place : Nat) : Dormitory :=
  { d with timers := d.timers.filter fun t => t.place ≠ place }

def stopListening (d : Dormitory) (place : Nat) : Dormitory :=
  { d with listeners := d.listeners.filter fun l => l.place ≠ place }

/-- A sleep starts. -/
def start (d : Dormitory) (id : String) (ms : Binary64) (signal : Option String) :
    Dormitory × List Sight :=
  let place := d.sleeps.length
  let begun : Dormitory := { d with sleeps := d.sleeps ++ [⟨id, signal, .pending, d.now⟩] }
  if d.isRaised signal then begun.settle place .aborted
  else
    ({ begun with
        timers := d.timers ++ [⟨d.now + Delay.effective ms, place⟩]
        listeners := d.listeners ++ signal.toList.map fun name => ⟨name, place⟩ },
      [.timer ms])

/-- Sleeps are told, one after the other, that their signal has been raised. -/
def abortAll (d : Dormitory) : List Nat → Dormitory × List Sight
  | [] => (d, [])
  | place :: rest =>
    let (d, first) := (d.clearTimer place).settle place .aborted
    let (d, later) := d.abortAll rest
    (d, first ++ later)

/-- A signal counts as raised, and nobody listens to it any more. -/
def markRaised (d : Dormitory) (name : String) : Dormitory :=
  { d with
    raised := name :: d.raised
    listeners := d.listeners.filter fun l => l.signal ≠ name }

/-- A signal is raised, and everyone who listens to it is told once. Raising it again does
nothing. -/
def abort (d : Dormitory) (name : String) : Dormitory × List Sight :=
  if d.raised.contains name then (d, [])
  else (d.markRaised name).abortAll
    ((d.listeners.filter fun l => l.signal = name).map Listener.place)

def wake (d : Dormitory) (time : Nat) : Dormitory := { d with now := max d.now time }

/-- A timer goes off. The clock reads at least what the timer was set to. -/
def goOff (d : Dormitory) (t : Timer) : Dormitory × List Sight :=
  (((d.wake t.due).clearTimer t.place).stopListening t.place).settle t.place .done

/-- The timers due before a time go off in order. The last argument bounds their number. -/
def runBefore (d : Dormitory) (time : Nat) : Nat → Dormitory × List Sight
  | 0 => (d, [])
  | timers + 1 =>
    match nextTimer? d.timers with
    | none => (d, [])
    | some t =>
      if t.due < time then
        let (d, first) := d.goOff t
        let (d, later) := d.runBefore time timers
        (d, first ++ later)
      else (d, [])

/-- Time passes. Every timer due by then goes off. -/
def advance (d : Dormitory) (ms : Nat) : Dormitory × List Sight :=
  let time := d.now + ms
  let (d, sights) := d.runBefore (time + 1) d.timers.length
  ({ d with now := time }, sights)

end Dormitory

end JobWatch.Sleeps
