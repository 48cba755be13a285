/-!
Maps from names to values that remember an order: names that are array indices come first, in
ascending order, and the other names follow in the order of their first arrival. A name that
arrives again keeps its place and takes the new value.
-/
namespace JobWatch

/-- The entries in order of arrival, one per name. -/
structure KeyedMap (α : Type) where
  arrivals : List (String × α)
deriving DecidableEq, Repr

namespace KeyedMap

variable {α : Type}

def empty : KeyedMap α := ⟨[]⟩

/-- The digits of a number below `2^32 - 1`, without leading zeros. -/
def index? (name : String) : Option Nat :=
  let s := name.toList
  let n := s.foldl (fun n c => n * 10 + (c.toNat - 48)) 0
  if s ≠ [] ∧ s.all Char.isDigit ∧ s.length ≤ 10 ∧ (s.head? ≠ some '0' ∨ s.length = 1)
      ∧ n < 4294967295 then some n
  else none

def replace (name : String) (value : α) : List (String × α) → List (String × α)
  | [] => [(name, value)]
  | e :: rest => if e.1 = name then (name, value) :: rest else e :: replace name value rest

def insert (m : KeyedMap α) (name : String) (value : α) : KeyedMap α :=
  ⟨replace name value m.arrivals⟩

/-- The name under which no entry can be filed while a map is built up. -/
def reserved : String := "__proto__"

/-- Files an entry, unless its name is reserved. -/
def file (m : KeyedMap α) (name : String) (value : α) : KeyedMap α :=
  if name = reserved then m else m.insert name value

def ofList (entries : List (String × α)) : KeyedMap α :=
  entries.foldl (fun m e => m.insert e.1 e.2) empty

def insertIndex (e : Nat × String × α) : List (Nat × String × α) → List (Nat × String × α)
  | [] => [e]
  | f :: rest => if e.1 < f.1 then e :: f :: rest else f :: insertIndex e rest

/-- The entries whose names are array indices, ascending. -/
def indexed (m : KeyedMap α) : List (String × α) :=
  let found := m.arrivals.filterMap fun e => (index? e.1).map fun n => (n, e)
  (found.foldl (fun sorted e => insertIndex e sorted) []).map (·.2)

def named (m : KeyedMap α) : List (String × α) :=
  m.arrivals.filter fun e => (index? e.1).isNone

/-- The entries in the map's order. -/
def toList (m : KeyedMap α) : List (String × α) := m.indexed ++ m.named

def keys (m : KeyedMap α) : List String := m.toList.map (·.1)

def values (m : KeyedMap α) : List α := m.toList.map (·.2)

def get? (m : KeyedMap α) (name : String) : Option α :=
  (m.arrivals.find? fun e => e.1 = name).map (·.2)

end KeyedMap

end JobWatch
