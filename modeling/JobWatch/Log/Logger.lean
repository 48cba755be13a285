import JobWatch.Calendar
import JobWatch.Log.Level
import JobWatch.Run.Basic

/-!
Loggers write lines of at least some level to the console, with the time, a tag and the name of
the component that speaks.
-/
namespace JobWatch.Log

structure Config where
  enabled : Bool := true
  level : Option String := none
  tag : Option String := none
deriving DecidableEq, Repr

/-- Names that are taken for a level, though no level compares with them. Among themselves they
compare by their places in this list. -/
def idleNames : List String :=
  ["__proto__", "constructor", "__defineGetter__", "__defineSetter__", "__lookupGetter__",
    "__lookupSetter__", "hasOwnProperty", "isPrototypeOf", "propertyIsEnumerable",
    "toLocaleString", "toString", "valueOf"]

/-- The least level that is written. -/
inductive Threshold where
  | level (l : Level)
  /-- No level reaches it. -/
  | idle (name : String)
deriving DecidableEq, Repr

def Threshold.ofName? (name : String) : Option Threshold :=
  match Level.ofName? name with
  | some l => some (.level l)
  | none => if idleNames.contains name then some (.idle name) else none

structure Logger where
  enabled : Bool
  threshold : Threshold
  tag : String
  component : String
deriving DecidableEq, Repr

namespace Logger

def defaultLevel : String := "info"

def defaultTag : String := "[QueueWatch]"

/-- The value of a setting that is given and not empty. -/
def filled (s : Option String) (default : String) : String := (s.filter (· ≠ "")).getD default

def create (c : Config) : Except Failure Logger :=
  let level := filled c.level defaultLevel
  match Threshold.ofName? level with
  | some threshold => .ok ⟨c.enabled, threshold, filled c.tag defaultTag, ""⟩
  | none => .error (.configuration ("unknown log level: " ++ level))

/-- A logger that writes nothing. -/
def silent : Logger := ⟨false, .level .info, defaultTag, ""⟩

/-- The logger of a part. Parts of parts are joined by dots. -/
def child (l : Logger) (component : String) : Logger :=
  { l with component := if l.component = "" then component else l.component ++ "." ++ component }

/-- Lines of a level are written. -/
def isEnabled (l : Logger) (level : Level) : Bool :=
  l.enabled && match l.threshold with
    | .level least => least.priority ≤ level.priority
    | .idle _ => false

/-- The same for a name. A name that is no level compares only with names of its kind. -/
def isEnabledName (l : Logger) (name : String) : Bool :=
  match Level.ofName? name, l.threshold with
  | some level, _ => l.isEnabled level
  | none, .level _ => false
  | none, .idle least =>
    l.enabled && idleNames.contains name && idleNames.idxOf least ≤ idleNames.idxOf name

def line (l : Logger) (now : Nat) (level : Level) (message : String) : String :=
  let tag := if l.component = "" then l.tag else l.tag ++ " " ++ l.component ++ ":"
  Calendar.isoText now ++ " " ++ tag ++ " " ++ level.label ++ " " ++ message

end Logger

def Level.channel : Level → Channel
  | debug => .debug
  | info => .info
  | warn => .warn
  | error => .error

namespace Logger

variable {σ : Type}

/-- Writes a line if its level is enabled. -/
def log (l : Logger) (level : Level) (message : String) (details : List Detail) : Run σ Unit := do
  if l.isEnabled level then
    Run.emit (.console level.channel (l.line (← Run.now) level message) details)

def debug (l : Logger) (message : String) (details : List Detail) : Run σ Unit :=
  l.log .debug message details

def info (l : Logger) (message : String) : Run σ Unit := l.log .info message []

def warn (l : Logger) (message : String) (details : List Detail) : Run σ Unit :=
  l.log .warn message details

def error (l : Logger) (message : String) (details : List Detail) : Run σ Unit :=
  l.log .error message details

end Logger

end JobWatch.Log
