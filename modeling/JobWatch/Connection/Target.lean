import JobWatch.Number.Binary64

/-!
Where the broker is, and how its client is set up. A client connects when it is first used, and
a round trip that fails is tried once more at most.
-/
namespace JobWatch.Connection

/-- What a configuration says about the broker in detail; all of it may be left out. -/
structure Settings where
  url : Option String := none
  host : Option String := none
  port : Option Binary64 := none
  db : Option Binary64 := none
  username : Option String := none
  password : Option String := none
  connectTimeoutMs : Option Binary64 := none
  encrypted : Bool := false
deriving DecidableEq, Repr

inductive Config where
  | address (url : String)
  | detailed (settings : Settings)
deriving DecidableEq, Repr

/-- Where a client connects to. -/
inductive Target where
  | url (url : String)
  | host (name : String) (port : Binary64) (db : Option Binary64)
      (username password : Option String) (encrypted : Bool)
deriving DecidableEq, Repr

/-- What a client is constructed with. -/
structure ClientOptions where
  target : Target
  connectTimeoutMs : Binary64
deriving DecidableEq, Repr

def defaultTimeoutMs : Binary64 := 5000

def defaultHost : String := "localhost"

def defaultPort : Binary64 := 6379

/-- How often a failed round trip is tried again. -/
def maxRetries : Nat := 1

/-- A number that is given and neither zero nor NaN, or the default. -/
def given (x : Option Binary64) (default : Binary64) : Binary64 :=
  (x.filter Binary64.isTruthy).getD default

def filled (s : Option String) (default : String) : String := (s.filter (· ≠ "")).getD default

/-- An address counts before the details. -/
def Config.options : Config → ClientOptions
  | address url => ⟨.url url, defaultTimeoutMs⟩
  | detailed s =>
    ⟨match s.url.filter (· ≠ "") with
      | some url => .url url
      | none => .host (filled s.host defaultHost) (given s.port defaultPort) s.db s.username
          s.password s.encrypted,
      given s.connectTimeoutMs defaultTimeoutMs⟩

end JobWatch.Connection
