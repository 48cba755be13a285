import JobWatch.Status
import JobWatch.Failure
import JobWatch.Pattern.Reader
import JobWatch.Pattern.Search

/-!
Listing workers: the map from queues to workers turned around, and the filters on it.
-/
namespace JobWatch

/-- Which pattern a query asks for: none, a text still to be read, or one that has been read. -/
inductive PatternFilter where
  | absent
  | text (source : String)
  /-- A pattern that may have been used before, and where its latest use left off. A search
  starts at the beginning of a text all the same. -/
  | given (p : Pattern) (left : Nat)
deriving DecidableEq, Repr

/-- The filters of a listing. They all have to let a worker pass; an empty list lets all pass. -/
structure WorkerQuery where
  workerNames : List String := []
  queues : List String := []
  pattern : PatternFilter := .absent
deriving DecidableEq, Repr

structure WorkerInfo where
  worker : String
  queues : List String
deriving DecidableEq, Repr

/-- The message about a text that is no pattern. -/
def Pattern.Fault.describe (source : String) (fault : Pattern.Fault) : String :=
  "Invalid regular expression: /" ++ source ++ "/: " ++ fault.message

/-- The pattern of a filter. The empty text asks for none. -/
def PatternFilter.compile : PatternFilter → Except Failure (Option Pattern)
  | absent => .ok none
  | given p _ => .ok (some p)
  | text source =>
    if source = "" then .ok none
    else match Pattern.read {} source with
      | .ok p => .ok (some p)
      | .error fault => .error (.configuration
        ("invalid worker regex " ++ source ++ ": " ++ fault.describe source))

/-- Files one subscription under its worker, behind the queues that the worker has already. -/
def subscribe (queue worker : String) : List WorkerInfo → List WorkerInfo
  | [] => [⟨worker, [queue]⟩]
  | info :: rest =>
    if info.worker = worker then { info with queues := remember info.queues queue } :: rest
    else info :: subscribe queue worker rest

/-- One entry per worker with the queues that list it, in order of first occurrence. -/
def byWorker (active : ActiveQueues) : List WorkerInfo :=
  active.toList.foldl
    (fun infos e => e.2.foldl (fun infos worker => subscribe e.1 worker infos) infos) []

def WorkerQuery.accepts (q : WorkerQuery) (pattern : Option Pattern) (info : WorkerInfo) : Bool :=
  (q.workerNames.isEmpty || q.workerNames.any (Text.contains info.worker)) &&
  (q.queues.isEmpty || info.queues.any (· ∈ q.queues)) &&
  pattern.all (·.occursIn info.worker)

/-- The workers that pass the query, ascending, each with all its queues, ascending. -/
def filterWorkers (active : Option ActiveQueues) (q : WorkerQuery) :
    Except Failure (List WorkerInfo) := do
  let pattern ← q.pattern.compile
  let passed := (byWorker (active.getD .empty)).filter (q.accepts pattern)
  return Text.sortBy WorkerInfo.worker
    (passed.map fun info => { info with queues := Text.sort info.queues })

/-- Some expected name is part of some reported identifier. -/
def hasExpectedWorker (expected reported : List String) : Bool :=
  expected.any fun name => reported.any fun identifier => Text.contains identifier name

end JobWatch
