import JobWatch.Text.Search

/-!
How a worker's connection is named in reports: `<worker>@<host>`.
-/
namespace JobWatch

/-- A worker's connection as the broker lists it; a field that is missing is empty. -/
structure WorkerClient where
  rawName : String := ""
  id : String := ""
  address : String := ""
deriving DecidableEq, Repr

namespace WorkerClient

/-- The text behind the last `:w:`, or a name made of the connection's id. -/
def workerName (c : WorkerClient) : String :=
  match Text.splitLast ":w:".toList c.rawName.toList with
  | some (_, x :: rest) => String.ofList (x :: rest)
  | _ => "worker-" ++ (if c.id = "" then "unknown" else c.id)

/-- The address up to its last colon, unless nothing stands before the colon. -/
def host (c : WorkerClient) : String :=
  let host := match Text.splitLast [':'] c.address.toList with
    | some (x :: before, _) => String.ofList (x :: before)
    | _ => c.address
  if host = "" then "unknown" else host

def identifier (c : WorkerClient) : String := c.workerName ++ "@" ++ c.host

end WorkerClient

end JobWatch
