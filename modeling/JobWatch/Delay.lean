import JobWatch.Failure

/-!
How long a sleep may be, and how long it is. A timer asked for less than a millisecond, for more
than `2^31 - 1` of them or for no number at all fires after one millisecond, so longer sleeps are
refused beforehand.
-/
namespace JobWatch.Delay

/-- The longest delay that a timer honours, in milliseconds. -/
def longestMs : Nat := 2147483647

/-- The longest sleep in seconds, as it is written in messages. -/
def longestSecondsText : String := (Binary64.ofDecimal false longestMs (-3)).text

/-- The delay asked of the timer for a sleep of so many seconds. -/
def ofSeconds (seconds : Binary64) : Binary64 := seconds * 1000

/-- After how many milliseconds a timer fires. -/
def effective (ms : Binary64) : Nat :=
  if Binary64.le 1 ms && ms.atMost longestMs then ms.truncate.toNat else 1

/-- Why a number of seconds cannot be slept. -/
inductive Defect where
  | notNonNegative
  | tooLong
deriving DecidableEq, Repr

def defect? (seconds : Binary64) : Option Defect :=
  if !seconds.isFinite || seconds.isNegative then some .notNonNegative
  else if !(ofSeconds seconds).atMost longestMs then some .tooLong
  else none

/-- The complaint about the value `got` of the setting `label`. -/
def Defect.message (label got : String) : Defect → String
  | notNonNegative => label ++ " must be a non-negative number, got " ++ got
  | tooLong => label ++ " must be at most " ++ longestSecondsText ++ " seconds, got " ++ got

/-- Refuses a number of seconds that cannot be slept. -/
def validate (seconds : Binary64) (label : String) : Except Failure Unit :=
  match defect? seconds with
  | none => .ok ()
  | some d => .error (.configuration (d.message label seconds.text))

end JobWatch.Delay
