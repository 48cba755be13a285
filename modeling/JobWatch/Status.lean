import JobWatch.Number.Binary64
import JobWatch.Data.KeyedMap

/-!
What a backend reports: the backlog of queues, the workers subscribed to them, and the numbers
that a check draws from both.
-/
namespace JobWatch

structure QueueStatus where
  name : String
  pendingJobs : Binary64
  consumerCount : Binary64
deriving DecidableEq, Repr

abbrev StatusMap := KeyedMap QueueStatus

/-- Queue name to identifiers of the workers subscribed to the queue. -/
abbrev ActiveQueues := KeyedMap (List String)

/-- A reading of all watched queues, and every distinct worker seen in it. -/
structure ActiveSnapshot where
  activeQueues : Option ActiveQueues
  workers : List String
deriving DecidableEq, Repr

/-- What a check has to know about a job. -/
structure JobView where
  relevantQueues : List String
  expectedWorkers : List String
deriving DecidableEq, Repr

/-- Adds an element to a list that holds each element once. -/
def remember {α : Type} [DecidableEq α] (seen : List α) (x : α) : List α :=
  if x ∈ seen then seen else seen ++ [x]

/-- The elements without repeats, in order of first occurrence. -/
def distinct {α : Type} [DecidableEq α] (xs : List α) : List α := xs.foldl remember []

/-- The backlog over all the statuses given. -/
def aggregateJobs (statuses : List QueueStatus) : Binary64 :=
  statuses.foldl (fun total s => total + s.pendingJobs) .zero

/-- The number of distinct workers subscribed to at least one of the relevant queues. -/
def aggregateConsumers (active : Option ActiveQueues) (relevant : List String) : Nat :=
  match active with
  | none => 0
  | some m =>
    let lists := m.toList.filterMap fun e => if e.1 ∈ relevant then some e.2 else none
    (distinct lists.flatten).length

/-- The statuses that carry one of the names. -/
def filterStatuses (statuses : StatusMap) (names : List String) : List QueueStatus :=
  statuses.values.filter fun s => s.name ∈ names

end JobWatch
