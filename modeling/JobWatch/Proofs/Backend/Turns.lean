import JobWatch.Proofs.Backend.Upkeep

/-!
# A backend's calls one after another

Whoever uses a backend waits for each call to end before making the next one. A call may fail, and
any time may pass between two of them; the clock is not even said to move forwards.
-/

namespace JobWatch

variable {σ : Type}

namespace Backend

/-- A call that is made of a backend, and the time at which it is. -/
structure Turn where
  now : Nat
  call : BackendCall

/-- Makes a call. What it answers is left aside here. -/
def perform (b : Backend σ) : BackendCall → Run σ Unit
  | .watchQueues queues => b.watchQueues queues
  | .queueStatus queues => do
    let _ ← b.queueStatus queues
  | .activeQueues => do
    let _ ← b.activeQueues
  | .workerIdentifiers => do
    let _ ← b.workerIdentifiers
  | .workersProcessing queues => do
    let _ ← b.workersProcessing queues
  | .dispose => b.dispose

def take (b : Backend σ) (t : Turn) (s : Session σ) : Result σ Unit :=
  b.perform t.call { s with now := t.now }

/-- The session after some turns, whatever each of them has come to. -/
def after (b : Backend σ) (s : Session σ) : List Turn → Session σ
  | [] => s
  | t :: rest => b.after (b.take t s).session rest

/-- The calls to the broker in some turns. -/
def calls (b : Backend σ) (s : Session σ) : List Turn → List BrokerCall
  | [] => []
  | t :: rest => brokerCalls (b.take t s).events ++ b.calls (b.take t s).session rest

variable {b : Backend σ} {I : List BrokerCall → σ → Prop}

theorem Upholds.perform (upholds : b.Upholds I) (call : BackendCall)
    (dispose : call = .dispose → Run.Keeps I b.dispose) : Run.Keeps I (b.perform call) := by
  have silently {α : Type} {x : Run σ α} (h : Run.Keeps I x) : Run.Keeps I (do let _ ← x) :=
    h.bind fun _ => Run.quiet_pure () I
  cases call with
  | watchQueues queues => exact upholds.watchQueues queues
  | queueStatus queues => exact silently (upholds.queueStatus queues)
  | activeQueues => exact silently upholds.activeQueues
  | workerIdentifiers => exact silently upholds.workerIdentifiers
  | workersProcessing queues => exact silently (upholds.workersProcessing queues)
  | dispose => exact dispose rfl

/-- What each of the calls keeps, the turns in which they are made keep. -/
theorem keeps_turns (turns : List Turn) (kept : ∀ t ∈ turns, Run.Keeps I (b.perform t.call))
    (past : List BrokerCall) {s : Session σ} (holds : I past s.outside) :
    I (past ++ b.calls s turns) (b.after s turns).outside := by
  induction turns generalizing past s with
  | nil => exact (List.append_nil past).symm ▸ holds
  | cons t rest ih =>
    have first := kept t List.mem_cons_self past { s with now := t.now } holds
    rw [calls, after, ← List.append_assoc]
    exact ih (fun t listed => kept t (List.mem_cons_of_mem _ listed)) _ first

end Backend

end JobWatch
