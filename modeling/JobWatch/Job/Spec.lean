import JobWatch.Failure
import JobWatch.Job.Document
import JobWatch.Status
import JobWatch.Yaml.Resolve

/-!
Job specs: documents whose step names differ and whose workers name only steps that exist. A
spec tells which queues belong to a selection of its steps.
-/
namespace JobWatch.Job

/-- The word that selects every step. -/
def everyStep : String := "all"

namespace Document

def stepNames (d : Document) : List String := d.steps.map (·.name)

end Document

/-- The first step named in a list that is no step of the document. The empty name is passed
over. -/
def danglingStep? (known : List String) : Coverage → Option String
  | .all => none
  | .only names => (names.find? fun s => !(known.contains s)).filter (· ≠ "")

/-- Why a document makes no spec. -/
inductive Conflict where
  | repeatedStep
  | danglingStep (worker step : String)
deriving DecidableEq, Repr

def Conflict.message : Conflict → String
  | repeatedStep => "step names must be unique"
  | danglingStep worker step => "worker " ++ worker ++ " references unknown step: " ++ step

/-- The first conflict of a document. -/
def Document.conflict? (d : Document) : Option Conflict :=
  if (distinct d.stepNames).length ≠ d.steps.length then some .repeatedStep
  else d.workers.findSome? fun w =>
    (danglingStep? d.stepNames w.steps).map (.danglingStep w.name)

/-- A document without conflicts. -/
structure Spec where
  document : Document
  sound : document.conflict? = none

namespace Spec

def invalid {α : Type} (reason : String) : Except Failure α := .error (.invalidJobSpec reason)

def ofDocument (d : Document) : Except Failure Spec :=
  match h : d.conflict? with
  | none => .ok ⟨d, h⟩
  | some c => invalid c.message

/-- What stands in a message for every fault of YAML. -/
def yamlFault : String := "<yaml error>"

/-- The spec that a value describes, if it describes one. -/
def ofValue (v : Yaml.Value) : Except Failure Spec :=
  match Document.check v with
  | .ok d => ofDocument d
  | .error i => invalid i.message

def parse (source : String) : Except Failure Spec :=
  match Yaml.parse? source with
  | none => invalid yamlFault
  | some v => ofValue v

def name (s : Spec) : String := s.document.name

def stepNames (s : Spec) : List String := s.document.stepNames

def workerNames (s : Spec) : List String := s.document.workers.map (·.name)

def findStep? (s : Spec) (name : String) : Option Step := s.document.steps.find? (·.name = name)

/-- The queues of the steps named, in their order, without repeats. -/
def queuesFrom (s : Spec) : List String → List String → Except Failure (List String)
  | queues, [] => .ok queues
  | queues, name :: rest =>
    match s.findStep? name with
    | none => invalid ("unknown step: " ++ name)
    | some step => s.queuesFrom (remember queues step.queue) rest

/-- The queues of a selection of steps. -/
def queues (s : Spec) (selection : List String) : Except Failure (List String) :=
  s.queuesFrom [] (if selection.contains everyStep then s.stepNames else selection)

/-- The spec as a check sees it. -/
def view (s : Spec) : Except Failure JobView :=
  (s.queues [everyStep]).map fun queues => ⟨queues, s.workerNames⟩

end Spec

end JobWatch.Job
