import JobWatch.Connection.Target
import JobWatch.Failure
import JobWatch.Status

/-!
What can be seen of a run from outside: lines on the console, waiting, and calls to those that
the run depends on.
-/
namespace JobWatch

/-- The console's channels. -/
inductive Channel where
  | debug
  | info
  | warn
  | error
  | log
deriving DecidableEq, Repr

/-- What is handed to the console behind a line of text. -/
inductive Detail where
  | value (v : Value)
  | thrown (t : Thrown)
  | statuses (m : StatusMap)
  | activeQueues (m : Option ActiveQueues)
deriving BEq, Repr

/-- Calls to the broker, through its client and through the handles of queues. -/
inductive BrokerCall where
  | construct (options : Connection.ClientOptions)
  | connect
  | ping
  | quit
  | disconnect
  /-- A handle is opened, by the broker's own means under a key prefix or by means given. -/
  | openHandle (queue : String) (keyPrefix : Option String)
  | jobCounts (queue : String)
  | workers (queue : String)
  | activeCount (queue : String)
  | close (queue : String)
deriving DecidableEq, Repr

/-- Calls to a backend as a whole. -/
inductive BackendCall where
  | watchQueues (queues : List String)
  | queueStatus (queues : List String)
  | activeQueues
  | workerIdentifiers
  | workersProcessing (queues : List String)
  | dispose
deriving DecidableEq, Repr

namespace BackendCall

/-- The call asks the backend for an answer. -/
def isQuery : BackendCall → Bool
  | queueStatus _ => true
  | activeQueues => true
  | workerIdentifiers => true
  | workersProcessing _ => true
  | watchQueues _ => false
  | dispose => false

end BackendCall

inductive Event where
  | console (channel : Channel) (line : String) (details : List Detail)
  /-- A timer is set. -/
  | timer (ms : Binary64)
  /-- Sleeping is left to someone else, who is told whether there is a signal. -/
  | sleep (ms : Binary64) (signalled : Bool)
  | broker (call : BrokerCall)
  | backend (call : BackendCall)
  /-- A reading is handed on to the caller, or to a reporter. -/
  | snapshot (statuses : StatusMap)
  | record (statuses : StatusMap)
  /-- The process is told to stop. -/
  | interrupt (name : String)
deriving BEq, Repr

end JobWatch
