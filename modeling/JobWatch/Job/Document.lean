import JobWatch.Yaml.Value

/-!
The document that describes a job, and its shape as a check on YAML values. The check goes
through a document in the order of its fields and stops at the first fault, which it names by
the path to it.
-/
namespace JobWatch.Job

structure Step where
  name : String
  queue : String
deriving DecidableEq, Repr

/-- Which steps a worker serves. -/
inductive Coverage where
  | all
  | only (steps : List String)
deriving DecidableEq, Repr

structure Worker where
  name : String
  steps : Coverage
deriving DecidableEq, Repr

structure Document where
  name : String
  steps : List Step
  workers : List Worker
deriving DecidableEq, Repr

/-- What can be wrong with a value of a document. -/
inductive Defect where
  | missing
  | mistyped (expected received : String)
  | emptyText
  | emptyList
  /-- None of the allowed forms. -/
  | unfit
deriving DecidableEq, Repr

def Defect.message : Defect → String
  | missing => "Required"
  | mistyped expected received => "Expected " ++ expected ++ ", received " ++ received
  | emptyText => "String must contain at least 1 character(s)"
  | emptyList => "Array must contain at least 1 element(s)"
  | unfit => "Invalid input"

/-- A defect and the path to it, from the outermost field or index inwards. -/
structure Issue where
  path : List String
  defect : Defect
deriving DecidableEq, Repr

namespace Issue

def under (field : String) (i : Issue) : Issue := { i with path := field :: i.path }

def message (i : Issue) : String :=
  if i.path.isEmpty then i.defect.message
  else Text.join "." i.path ++ ": " ++ i.defect.message

end Issue

/-- The name of a value's type. -/
def typeName : Yaml.Value → String
  | .null => "null"
  | .flag _ => "boolean"
  | .number x => if x.isNaN then "nan" else "number"
  | .text _ => "string"
  | .list _ => "array"
  | .record _ => "object"
  | .set => "set"
  | .orderedMap => "map"
  | .date => "date"
  | .bytes => "object"

abbrev Checked (α : Type) := Except Issue α

def fault {α : Type} (d : Defect) : Checked α := .error ⟨[], d⟩

def inField {α : Type} (field : String) : Checked α → Checked α
  | .ok a => .ok a
  | .error i => .error (i.under field)

/-- A text with at least one character. -/
def filledText : Option Yaml.Value → Checked String
  | none => fault .missing
  | some (.text s) => if s = "" then fault .emptyText else .ok s
  | some v => fault (.mistyped "string" (typeName v))

/-- The fields of a mapping. -/
def fields : Yaml.Value → Checked (List (String × Yaml.Value))
  | .record fs => .ok fs
  | .bytes => .ok []
  | v => fault (.mistyped "object" (typeName v))

def eachFrom {α : Type} (check : Yaml.Value → Checked α) : Nat → List Yaml.Value → Checked (List α)
  | _, [] => .ok []
  | n, v :: rest => do
    let a ← inField (toString n) (check v)
    return a :: (← eachFrom check (n + 1) rest)

/-- A list with at least one item. Faults inside the items count before its length does. -/
def filledList {α : Type} (check : Yaml.Value → Checked α) : Option Yaml.Value → Checked (List α)
  | none => fault .missing
  | some (.list []) => fault .emptyList
  | some (.list vs) => eachFrom check 0 vs
  | some v => fault (.mistyped "array" (typeName v))

def step (v : Yaml.Value) : Checked Step := do
  let fs ← fields v
  let name ← inField "name" (filledText (Yaml.Value.lookup "name" fs))
  let queue ← inField "queue" (filledText (Yaml.Value.lookup "queue" fs))
  return ⟨name, queue⟩

def isText : Yaml.Value → Bool
  | .text _ => true
  | _ => false

/-- The word `all`, which is also meant where nothing is said, or a list of step names. -/
def coverage : Option Yaml.Value → Checked Coverage
  | none => .ok .all
  | some (.text "all") => .ok .all
  | some (.list []) => fault .emptyList
  | some (.list vs) =>
    if vs.all isText then (eachFrom (fun v => filledText (some v)) 0 vs).map .only
    else fault .unfit
  | some _ => fault .unfit

def worker (v : Yaml.Value) : Checked Worker := do
  let fs ← fields v
  let name ← inField "name" (filledText (Yaml.Value.lookup "name" fs))
  let steps ← inField "steps" (coverage (Yaml.Value.lookup "steps" fs))
  return ⟨name, steps⟩

/-- The document that a value describes. -/
def Document.check (v : Yaml.Value) : Checked Document := do
  let fs ← fields v
  let name ← inField "name" (filledText (Yaml.Value.lookup "name" fs))
  let steps ← inField "steps" (filledList step (Yaml.Value.lookup "steps" fs))
  let workers ← inField "workers" (filledList worker (Yaml.Value.lookup "workers" fs))
  return ⟨name, steps, workers⟩

end JobWatch.Job
