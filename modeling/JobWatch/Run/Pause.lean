import JobWatch.Delay
import JobWatch.Run.Basic

/-!
Waiting. The clock of a session moves only while a run waits, and alarms that are due in the
meantime go off in order of time. A run that waits with a signal ends as soon as it is raised.
-/
namespace JobWatch

/-- How sleeping is done. -/
abbrev Sleeper (σ : Type) := Binary64 → Run σ Unit

/-- The alarm that goes off first, up to a time; of two at the same time the one set first. -/
def firstDue? (limit : Nat) : List (Nat × Alarm) → Option (Nat × Alarm)
  | [] => none
  | a :: rest =>
    match firstDue? limit rest with
    | some b => if a.1 ≤ b.1 then some a else some b
    | none => if a.1 ≤ limit then some a else none

namespace Session

variable {σ : Type}

/-- What an alarm does, and what is seen of it. An interrupt is heard once. -/
def ring (s : Session σ) : Alarm → Session σ × List Event
  | .abort => (s.raise, [])
  | .interrupt name =>
    if name ∈ s.listening then
      ({ s.raise with listening := s.listening.filter (· ≠ name) }, [.interrupt name])
    else (s, [.interrupt name])

end Session

namespace Run

variable {σ : Type}

def throwIfAborted : Run σ Unit := fun s =>
  if s.signal = .raised then ⟨.threw (.failure .aborted), [], s⟩ else ⟨.returned (), [], s⟩

/-- Lets the clock run up to a time. After each alarm comes `heed`. The last argument bounds the
number of alarms. -/
def waitUntil (heed : Run σ Unit) (due : Nat) : Nat → Run σ Unit
  | 0 => modify fun s => { s with now := due }
  | alarms + 1 => fun s =>
    match firstDue? due s.alarms with
    | none => ⟨.returned (), [], { s with now := due }⟩
    | some (time, alarm) =>
      let s := { s with now := max s.now time, alarms := s.alarms.erase (time, alarm) }
      let (s, events) := s.ring alarm
      let r := (do heed; waitUntil heed due alarms) s
      { r with events := events ++ r.events }

/-- Sleeps by the clock. -/
def pause (ms : Binary64) : Run σ Unit := do
  throwIfAborted
  emit (.timer ms)
  let s ← session
  waitUntil throwIfAborted (s.now + Delay.effective ms) s.alarms.length

/-- Time passes while nobody waits. -/
def elapse (ms : Nat) : Run σ Unit := do
  let s ← session
  waitUntil (pure ()) (s.now + ms) s.alarms.length

/-- Leaves sleeping to someone else, which takes no time. -/
def delegateSleep (ms : Binary64) : Run σ Unit := do
  let s ← session
  emit (.sleep ms (s.signal ≠ .absent))

end Run

end JobWatch
