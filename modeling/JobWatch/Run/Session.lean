import JobWatch.Run.Event
import JobWatch.Files

/-!
What a run finds and leaves behind: the clock, the caller's signal, what is due later, the
files, and the state of those it talks to.
-/
namespace JobWatch

/-- The caller's means to abort a run. -/
inductive Signal where
  | absent
  | clear
  | raised
deriving DecidableEq, Repr

/-- Aborting without a signal has no effect. -/
def Signal.raise : Signal → Signal
  | absent => absent
  | clear => raised
  | raised => raised

/-- What happens at a set time while a run is waiting. -/
inductive Alarm where
  | abort
  | interrupt (name : String)
deriving DecidableEq, Repr

structure Session (σ : Type) where
  /-- Milliseconds since 1970. -/
  now : Nat
  signal : Signal
  /-- What is due, in the order in which it was set. -/
  alarms : List (Nat × Alarm)
  /-- The interrupts that raise the signal when they come. -/
  listening : List String
  files : Folder
  /-- The state of those the run talks to. -/
  outside : σ

namespace Session

variable {σ : Type}

/-- A session at the time `now` with nothing set up. -/
def start (now : Nat) (outside : σ) : Session σ := ⟨now, .absent, [], [], Folder.empty, outside⟩

def raise (s : Session σ) : Session σ := { s with signal := s.signal.raise }

/-- Sets an alarm. -/
def setAlarm (s : Session σ) (time : Nat) (a : Alarm) : Session σ :=
  { s with alarms := s.alarms ++ [(time, a)] }

end Session

end JobWatch
