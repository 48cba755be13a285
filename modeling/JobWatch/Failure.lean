import JobWatch.Data.Value

/-!
The ways in which a run can fail. Failures are causes; `message` is the only place that words
them. A foreign call may also throw a value that is no failure at all.
-/
namespace JobWatch

/-- Kinds of failure, from the general to the special. `general` is the kind of every failure
of this library, `any` also that of failures from outside. -/
inductive Kind where
  | any
  | typeMismatch
  | general
  | backendUnavailable
  | breakerOpen
  | noWorkers
  | aborted
  | unsupportedBackend
  | configuration
  | invalidJobSpec
  | connection
  | usage
deriving DecidableEq, Repr

inductive Failure where
  /-- A failure from outside this library. -/
  | foreign (typeMismatch : Bool) (message : String)
  | general (message : String)
  | backendUnavailable (reason : String) (cause : Option Failure)
  | breakerOpen (breaker : String)
  | noWorkers (expected : List String) (attempts : Binary64)
  | aborted
  | unsupportedBackend (backendType : String)
  | configuration (reason : String)
  | invalidJobSpec (reason : String)
  | connection (reason : String) (cause : Option Failure)
  | usage (message : String)
deriving BEq, Repr

instance : Inhabited Failure := ⟨.aborted⟩

namespace Failure

def message : Failure → String
  | foreign _ m => m
  | general m => m
  | backendUnavailable reason _ => "Backend unavailable: " ++ reason
  | breakerOpen breaker => "Backend unavailable: circuit breaker is open for " ++ breaker
  | noWorkers expected attempts =>
    "No workers available to process the queues: none of [" ++ Text.join ", " expected
      ++ "] started after " ++ attempts.text ++ " checks"
  | aborted => "Monitor run was aborted"
  | unsupportedBackend backendType => "Unsupported backend type: " ++ backendType
  | configuration reason => "Invalid configuration: " ++ reason
  | invalidJobSpec reason => "Invalid job spec: " ++ reason
  | connection reason _ => "Redis connection error: " ++ reason
  | usage m => m

/-- Every kind that a failure is of, the most special one first. -/
def kinds : Failure → List Kind
  | foreign mismatch _ => if mismatch then [.typeMismatch, .any] else [.any]
  | general _ => [.general, .any]
  | backendUnavailable _ _ => [.backendUnavailable, .general, .any]
  | breakerOpen _ => [.breakerOpen, .backendUnavailable, .general, .any]
  | noWorkers _ _ => [.noWorkers, .general, .any]
  | aborted => [.aborted, .general, .any]
  | unsupportedBackend _ => [.unsupportedBackend, .general, .any]
  | configuration _ => [.configuration, .general, .any]
  | invalidJobSpec _ => [.invalidJobSpec, .general, .any]
  | connection _ _ => [.connection, .general, .any]
  | usage _ => [.usage, .general, .any]

def isOf (f : Failure) (k : Kind) : Bool := f.kinds.contains k

def cause? : Failure → Option Failure
  | backendUnavailable _ cause => cause
  | connection _ cause => cause
  | _ => none

/-- A failure from outside with nothing but a message. -/
def plain (message : String) : Failure := foreign false message

end Failure

/-- What can be thrown: a failure, or a bare value by foreign code. -/
inductive Thrown where
  | failure (f : Failure)
  | value (v : Value)
deriving BEq, Repr

namespace Thrown

def message : Thrown → String
  | failure f => f.message
  | value v => v.describe

def isOf : Thrown → Kind → Bool
  | failure f, k => f.isOf k
  | value _, _ => false

def failure? : Thrown → Option Failure
  | failure f => some f
  | value _ => none

end Thrown

end JobWatch
