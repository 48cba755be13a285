import JobWatch.Breaker
import JobWatch.Run.Basic
import JobWatch.Workers.Identifier

/-!
The broker that holds the queues, and the state of this side of the connection to it.
-/
namespace JobWatch

/-- A broker: it answers the calls made through its client and through the handles of queues. -/
structure Broker (β : Type) where
  connect : Responder β Unit
  ping : Responder β Unit
  quit : Responder β Unit
  openHandle : String → Responder β Unit
  /-- The numbers of jobs by their state; states that are left out have none. -/
  jobCounts : String → Responder β (List (String × Binary64))
  workers : String → Responder β (List WorkerClient)
  activeCount : String → Responder β Binary64
  close : String → Responder β Unit

/-- The broker of a program that has no way to reach one: every call fails. -/
def Broker.unreachable {β : Type} : Broker β :=
  let refuse {α : Type} : Responder β α := fun b =>
    (⟨.error (.failure (.plain "no transport to the broker")), false⟩, b)
  ⟨refuse, refuse, refuse, fun _ => refuse, fun _ => refuse, fun _ => refuse, fun _ => refuse,
    fun _ => refuse⟩

/-- The handles of queues and what guards them. -/
structure Pool where
  /-- The queues with a handle, in order of creation. -/
  handles : List String
  breaker : Breaker
  disposed : Bool
deriving DecidableEq, Repr

/-- The client's side of the connection. -/
structure Link where
  /-- The client's status; it connects only from `wait`. -/
  status : String
  closed : Bool
deriving DecidableEq, Repr

/-- Everything on this side that keeps a state between calls, and the broker's own state. -/
structure Service (β : Type) where
  pool : Pool
  link : Link
  /-- The instance has been shut down. -/
  shutDown : Bool
  broker : β

namespace Pool

def defaultThreshold : Binary64 := 5

def defaultTimeoutMs : Binary64 := 30000

def breakerName : String := "queuewatch-backend"

/-- A pool without handles. Settings of the breaker that are zero count as left out. -/
def new (threshold timeoutMs : Option Binary64) : Pool :=
  ⟨[], Breaker.new breakerName (Connection.given threshold defaultThreshold)
    (Connection.given timeoutMs defaultTimeoutMs), false⟩

end Pool

namespace Link

def waiting : String := "wait"

def ready : String := "ready"

end Link

namespace Service

variable {β : Type}

/-- Nothing set up but the broker. -/
def start (status : String) (broker : β) : Service β :=
  ⟨Pool.new none none, ⟨status, false⟩, false, broker⟩

end Service

namespace Run

variable {β α : Type}

/-- A call to the broker. -/
def call (c : BrokerCall) (respond : Responder β α) : Run (Service β) α :=
  ask (.broker c) fun s =>
    let (reply, broker) := respond s.broker
    (reply, { s with broker })

def pool : Run (Service β) Pool := do return (← outside).pool

def modifyPool (f : Pool → Pool) : Run (Service β) Unit :=
  modifyOutside fun s => { s with pool := f s.pool }

def link : Run (Service β) Link := do return (← outside).link

def modifyLink (f : Link → Link) : Run (Service β) Unit :=
  modifyOutside fun s => { s with link := f s.link }

end Run

end JobWatch
