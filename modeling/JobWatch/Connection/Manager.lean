import JobWatch.Broker.Basic
import JobWatch.Log.Logger

/-!
The connection to the broker: its client is tested, watched and closed once.
-/
namespace JobWatch.Connection

/-- What a client tells about its connection. -/
inductive Notice where
  /-- Something went wrong; there should be a message. -/
  | error (message : Option String)
  | connected
  | reconnecting
  | other
deriving DecidableEq, Repr

structure Manager (β : Type) where
  broker : Broker β
  logger : Log.Logger

namespace Manager

variable {β : Type}

/-- Constructs a client, which does not connect yet. -/
def create (broker : Broker β) (c : Config) (logger : Log.Logger) :
    Run (Service β) (Manager β) := do
  Run.emit (.broker (.construct c.options))
  return ⟨broker, logger.child "Redis"⟩

def connectIfWaiting (m : Manager β) : Run (Service β) Unit := do
  if (← Run.link).status = Link.waiting then
    Run.call .connect m.broker.connect
    Run.modifyLink fun l => { l with status := Link.ready }

/-- Makes one round trip, connecting first if need be. -/
def test (m : Manager β) : Run (Service β) Unit := do
  let trip : Run (Service β) Unit := do
    m.connectIfWaiting
    Run.call .ping m.broker.ping
  match ← trip.attempt with
  | .ok _ => m.logger.info "Redis connection test successful"
  | .error t =>
    m.logger.error "Redis connection test failed:" [.thrown t]
    Run.fail (.connection "Failed to connect to Redis" t.failure?)

/-- Closes the connection the first time it is asked to. A client that cannot say goodbye is cut
off. -/
def close (m : Manager β) : Run (Service β) Unit := do
  if (← Run.link).closed then return
  Run.modifyLink fun l => { l with closed := true }
  match ← (Run.call .quit m.broker.quit).attempt with
  | .ok _ => m.logger.info "Redis connection closed"
  | .error t =>
    m.logger.warn "Redis quit failed, disconnecting:" [.thrown t]
    Run.emit (.broker .disconnect)

/-- Hears what the client tells. -/
def hear (m : Manager β) : Notice → Run (Service β) Unit
  | .error (some message) => m.logger.error "Redis connection error:" [.value (.text message)]
  | .error none =>
    Run.fail (.foreign true "Cannot read properties of undefined (reading 'message')")
  | .connected => m.logger.debug "Redis connection established" []
  | .reconnecting => m.logger.debug "Reconnecting to Redis" []
  | .other => pure ()

end Manager

end JobWatch.Connection
