/-!
The levels of log lines, from the least to the most urgent.
-/
namespace JobWatch.Log

inductive Level where
  | debug
  | info
  | warn
  | error
deriving DecidableEq, Repr

namespace Level

def all : List Level := [debug, info, warn, error]

def name : Level → String
  | debug => "debug"
  | info => "info"
  | warn => "warn"
  | error => "error"

/-- The name in capitals, filled up to five characters. -/
def label : Level → String
  | debug => "DEBUG"
  | info => "INFO "
  | warn => "WARN "
  | error => "ERROR"

def priority : Level → Nat
  | debug => 0
  | info => 1
  | warn => 2
  | error => 3

def ofName? (s : String) : Option Level := all.find? fun l => l.name == s

end Level

end JobWatch.Log
