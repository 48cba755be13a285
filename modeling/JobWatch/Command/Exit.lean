import JobWatch.Failure

/-!
What the command line makes of a failure: a number for the calling shell and a line for the user.
-/
namespace JobWatch

namespace Exit

def success : Nat := 0
def failed : Nat := 1
def noWorkers : Nat := 2
def unreachable : Nat := 3
def interrupted : Nat := 130

end Exit

namespace Thrown

/-- The backend or the connection to it is to blame. -/
def isOutage (t : Thrown) : Bool := t.isOf .backendUnavailable || t.isOf .connection

def exitCode (t : Thrown) : Nat :=
  if t.isOf .noWorkers then Exit.noWorkers
  else if t.isOutage then Exit.unreachable
  else if t.isOf .aborted then Exit.interrupted
  else Exit.failed

def describe (t : Thrown) : String :=
  if t.isOf .noWorkers then "Workers never started: " ++ t.message
  else if t.isOutage then "Task queue backend unreachable: " ++ t.message
  else if t.isOf .aborted then "Monitor interrupted"
  else t.message

end Thrown

end JobWatch
