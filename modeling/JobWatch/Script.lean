import JobWatch.Backend.Basic
import JobWatch.Broker.Basic

/-!
A broker and a backend that answer from scripts, for trying things out. A script is a list of
answers, one for each call; the last one is given again and again.
-/
namespace JobWatch

/-- The answers still to come. -/
abbrev Script (α : Type) := List (Except Thrown α)

/-- The next answer and the script after it. -/
def Script.next {α : Type} (default : α) : Script α → Except Thrown α × Script α
  | [] => (.ok default, [])
  | [a] => (a, [a])
  | a :: b :: rest => (a, b :: rest)

structure ScriptedQueue where
  opening : Script Unit := []
  counts : Script (List (String × Binary64)) := []
  workers : Script (List WorkerClient) := []
  active : Script Binary64 := []
  closing : Script Unit := []

structure ScriptedBackend where
  watchQueues : Script Unit := []
  queueStatus : Script StatusMap := []
  activeQueues : Script (Option ActiveQueues) := []
  workerIdentifiers : Script (List String) := []
  workersProcessing : Script Bool := []
  dispose : Script Unit := []

/-- All scripts, and when the caller aborts. -/
structure Play where
  queues : List (String × ScriptedQueue) := []
  connect : Script Unit := []
  ping : Script Unit := []
  quit : Script Unit := []
  backend : ScriptedBackend := {}
  /-- The number of calls so far. -/
  calls : Nat := 0
  /-- The call before whose answer the caller aborts. -/
  abortAt : Option Nat := none

namespace Play

/-- Gives an answer, counts the call, and aborts if it is time. -/
def reply {α : Type} (p : Play) (answer : Except Thrown α) : Reply α × Play :=
  (⟨answer, p.abortAt = some (p.calls + 1)⟩, { p with calls := p.calls + 1 })

def queue (p : Play) (name : String) : ScriptedQueue := (p.queues.lookup name).getD {}

def setQueue (p : Play) (name : String) (q : ScriptedQueue) : Play :=
  { p with queues := p.queues.map fun e => if e.1 = name then (name, q) else e }

/-- The status of a queue about which nothing is written. -/
def idleStatuses (queues : List String) : StatusMap :=
  queues.foldl (fun m q => m.file q ⟨q, .zero, .zero⟩) KeyedMap.empty

def broker : Broker Play where
  connect p :=
    let (a, connect) := p.connect.next ()
    { p with connect }.reply a
  ping p :=
    let (a, ping) := p.ping.next ()
    { p with ping }.reply a
  quit p :=
    let (a, quit) := p.quit.next ()
    { p with quit }.reply a
  openHandle name p :=
    let q := p.queue name
    let (a, opening) := q.opening.next ()
    (p.setQueue name { q with opening }).reply a
  jobCounts name p :=
    let q := p.queue name
    let (a, counts) := q.counts.next []
    (p.setQueue name { q with counts }).reply a
  workers name p :=
    let q := p.queue name
    let (a, workers) := q.workers.next []
    (p.setQueue name { q with workers }).reply a
  activeCount name p :=
    let q := p.queue name
    let (a, active) := q.active.next .zero
    (p.setQueue name { q with active }).reply a
  close name p :=
    let q := p.queue name
    let (a, closing) := q.closing.next ()
    (p.setQueue name { q with closing }).reply a

def setBackend (p : Play) (backend : ScriptedBackend) : Play := { p with backend }

def responder : BackendResponder Play where
  watchQueues _ p :=
    let (a, watchQueues) := p.backend.watchQueues.next ()
    (p.setBackend { p.backend with watchQueues }).reply a
  queueStatus queues p :=
    let (a, queueStatus) := p.backend.queueStatus.next (idleStatuses queues)
    (p.setBackend { p.backend with queueStatus }).reply a
  activeQueues p :=
    let (a, activeQueues) := p.backend.activeQueues.next (some KeyedMap.empty)
    (p.setBackend { p.backend with activeQueues }).reply (a.map fun m => ⟨m, []⟩)
  workerIdentifiers p :=
    let (a, workerIdentifiers) := p.backend.workerIdentifiers.next []
    (p.setBackend { p.backend with workerIdentifiers }).reply a
  workersProcessing _ p :=
    let (a, workersProcessing) := p.backend.workersProcessing.next false
    (p.setBackend { p.backend with workersProcessing }).reply a
  dispose p :=
    let (a, dispose) := p.backend.dispose.next ()
    (p.setBackend { p.backend with dispose }).reply a

end Play

namespace BackendResponder

variable {β : Type}

/-- An answer from behind a service. -/
def behind {α : Type} (r : Responder β α) : Responder (Service β) α := fun s =>
  let (reply, broker) := r s.broker
  (reply, { s with broker })

/-- A responder in the place of a service's broker. -/
def inService (r : BackendResponder β) : BackendResponder (Service β) where
  watchQueues queues := behind (r.watchQueues queues)
  queueStatus queues := behind (r.queueStatus queues)
  activeQueues := behind r.activeQueues
  workerIdentifiers := behind r.workerIdentifiers
  workersProcessing queues := behind (r.workersProcessing queues)
  dispose := behind r.dispose

end BackendResponder

end JobWatch
