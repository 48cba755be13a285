import JobWatch.Yaml.Document
import JobWatch.Yaml.Value

/-!
What a document stands for: references are replaced by what they refer to, tags and the forms
of plain texts give types, and a mapping may not hold the same key twice.
-/
namespace JobWatch.Yaml

/-- How often anchors may be followed, weighted by the references inside what they name. -/
def mostReferences : Nat := 100

/-- A node that has been named. -/
structure Anchor where
  name : String
  node : Node
  /-- What it stands for; while the node itself is being resolved, a stand-in of its type. -/
  value : Value
  isOpen : Bool
  uses : Nat
  weight : Nat

/-- The anchors so far, the latest first. -/
abbrev Anchors := List Anchor

namespace Anchors

def find? (env : Anchors) (name : String) : Option Anchor := List.find? (fun a => a.name == name) env

def update (env : Anchors) (p : Anchor → Bool) (f : Anchor → Anchor) : Anchors :=
  match env with
  | [] => []
  | a :: rest => if p a then f a :: rest else a :: update rest p f

mutual

/-- How many nodes a use of a node amounts to: one, or as many as the references in it do. -/
def weigh (env : Anchors) : Node → Nat
  | .scalar _ _ _ => 1
  | .reference name => ((env.find? name).map fun a => a.uses * a.weight).getD 0
  | .sequence _ items => weighItems env items
  | .mapping _ entries => weighEntries env entries

def weighItems (env : Anchors) : List Node → Nat
  | [] => 0
  | n :: rest => max (weigh env n) (weighItems env rest)

def weighEntries (env : Anchors) : List (Node × Node) → Nat
  | [] => 0
  | (k, v) :: rest => max (max (weigh env k) (weigh env v)) (weighEntries env rest)

end

/-- The value behind a reference. -/
def follow (env : Anchors) (name : String) : Option (Value × Anchors) := do
  let a ← env.find? name
  let uses := a.uses + 1
  let weight := if a.weight = 0 then weigh env a.node else a.weight
  if mostReferences < uses * weight then none
  return (a.value, update env (fun b => b.name == name) fun b => { b with uses, weight })

def openNode (env : Anchors) (props : Props) (node : Node) (value : Value) : Anchors :=
  match props.anchor with
  | some name => ⟨name, node, value, true, 1, 0⟩ :: env
  | none => env

def close (env : Anchors) (props : Props) (value : Value) : Anchors :=
  match props.anchor with
  | some name => update env (fun a => a.isOpen && a.name == name) fun a =>
      { a with value, isOpen := false }
  | none => env

end Anchors

/-! ### Tags -/

/-- What a tag says about a node. -/
inductive Tag where
  | absent
  /-- The tag `!`: the text is taken as it stands. -/
  | plainText
  | named (uri : String)
deriving DecidableEq, Repr

/-- The escapes of a tag's end replaced. Bytes beyond ASCII name no known type. -/
def decodePercent : Nat → List Char → Option (List Char)
  | 0, _ => none
  | _ + 1, [] => some []
  | fuel + 1, '%' :: rest => do
    let (code, rest) ← codeOf 2 rest
    return Char.ofNat code :: (← decodePercent fuel rest)
  | fuel + 1, c :: rest => (decodePercent fuel rest).map (c :: ·)

/-- A tag cut behind its last exclamation mark. -/
def splitTag (s : List Char) : List Char × List Char :=
  match Text.splitLast ['!'] s with
  | some (handle, rest) => (handle ++ ['!'], rest)
  | none => ([], s)

def Tag.read? (d : Directives) : Option String → Option Tag
  | none => some .absent
  | some "!" => some .plainText
  | some source =>
    match source.toList with
    | '!' :: '<' :: body =>
      let uri := String.ofList body.dropLast
      if body.getLast? != some '>' || uri = "!" || uri = "!!" then none
      else some (if uri = "" then .absent else .named uri)
    | s => do
      let (handle, rest) := splitTag s
      if rest.isEmpty then none
      match d.handles.lookup (String.ofList handle) with
      | some start => return .named (start ++ String.ofList (← decodePercent (rest.length + 1) rest))
      | none => if handle = ['!'] then some (.named source) else none

def Tag.isStandard (t : Tag) (name : String) : Bool := t == .named ("tag:yaml.org,2002:" ++ name)

/-! ### Types -/

def typed? (d : Directives) : Plain.Kind → List Char → Option Value :=
  if d.legacy then Plain.legacy? else Plain.core?

def kinds : List Plain.Kind := [.null, .bool, .int, .float, .timestamp]

/-- The value of a text by its form. -/
def untagged (d : Directives) (s : String) : Value :=
  (kinds.findSome? fun k => typed? d k s.toList).getD (.text s)

/-- The value of a text under a tag. A text that does not fit a simple type stays as it is. -/
def tagged? (d : Directives) (t : Tag) (s : String) : Option Value :=
  let fitting (k : Plain.Kind) : Option Value := some ((typed? d k s.toList).getD (.text s))
  if t.isStandard "null" then fitting .null
  else if t.isStandard "bool" then fitting .bool
  else if t.isStandard "int" then fitting .int
  else if t.isStandard "float" then fitting .float
  else if t.isStandard "timestamp" then
    if Plain.isTimestamp s.toList then some .date else if d.legacy then some (.text s) else none
  else if t.isStandard "binary" then some .bytes
  else some (.text s)

def scalarValue? (d : Directives) (t : Tag) (plain : Bool) (s : String) : Option Value :=
  match t with
  | .absent => some (if plain then untagged d s else .text s)
  | .plainText => some (.text s)
  | .named _ => tagged? d t s

/-- An entry of a mapping with its values. -/
structure Entry where
  keyNode : Node
  key : Value
  value : Value

def isReference : Node → Bool
  | .reference _ => true
  | _ => false

def isScalar : Node → Bool
  | .scalar _ _ _ => true
  | _ => false

/-- Under version 1.1 a plain `<<` takes over the fields of other mappings. -/
def isMerge (d : Directives) : Node → Bool
  | .scalar props plain text => d.legacy && plain && props.tag.isNone && text = "<<"
  | _ => false

/-- No key that is written out as a scalar is there twice, but for those that merge. -/
def keysDiffer (d : Directives) : List Entry → Bool
  | [] => true
  | e :: rest =>
    rest.all (fun f => !(isScalar e.keyNode && isScalar f.keyNode && !isMerge d e.keyNode
        && e.key.sameKey f.key))
      && keysDiffer d rest

/-- The fields that a mapping takes over. -/
def mergedFields : Value → Option (List (String × Value))
  | .record fields => some fields
  | .list items => mergedItems items
  | _ => none
where
  mergedItems : List Value → Option (List (String × Value))
    | [] => some []
    | .record fields :: rest => (mergedItems rest).map (· ++ fields)
    | _ :: _ => none

/-- The fields of a mapping; those taken over come first, so that its own ones win. -/
def fieldsOf (d : Directives) (entries : List Entry) : Option (List (String × Value)) := do
  let merges ← (entries.filter fun e => isMerge d e.keyNode).mapM fun e => mergedFields e.value
  let own := entries.filterMap fun e =>
    if isMerge d e.keyNode then none else e.key.fieldName?.map fun name => (name, e.value)
  return merges.reverse.flatten ++ own

def isNullValue (e : Entry) : Bool := e.value == .null

/-- The one entry of an item of a list of pairs. -/
def pairFields (item : Value) : List (String × Value) :=
  match item with
  | .record fields => fields
  | other => (other.fieldName?.map fun name => (name, Value.null)).toList

def isLongMapping : Node → Bool
  | .mapping _ entries => 1 < entries.length
  | _ => false

/-- The keys of an ordered map differ. -/
def pairKeysDiffer : List Value → Bool
  | [] => true
  | a :: rest =>
    rest.all (fun b => (pairFields a).map (·.1) != (pairFields b).map (·.1)) && pairKeysDiffer rest

def sequenceValue? (t : Tag) (items : List Node) (values : List Value) : Option Value :=
  if t.isStandard "omap" then
    if items.any isLongMapping || !pairKeysDiffer values then none else some .orderedMap
  else if t.isStandard "pairs" then
    if items.any isLongMapping then none
    else some (.list (values.map fun v => .record (pairFields v)))
  else some (.list values)

def mappingValue? (d : Directives) (t : Tag) (entries : List Entry) : Option Value :=
  if !keysDiffer d entries then none
  else if t.isStandard "set" then if entries.all isNullValue then some .set else none
  else (fieldsOf d entries).map Value.record

mutual

/-- The value of a node, and the anchors after it. -/
def resolve (d : Directives) (env : Anchors) : Node → Option (Value × Anchors)
  | .scalar props plain text => do
    let v ← scalarValue? d (← Tag.read? d props.tag) plain text
    return (v, (env.openNode props (.scalar props plain text) v).close props v)
  | .reference name => env.follow name
  | .sequence props items => do
    let t ← Tag.read? d props.tag
    let env := env.openNode props (.sequence props items) (.list [.null])
    let (values, env) ← resolveItems d env items
    let v ← sequenceValue? t items values
    return (v, env.close props v)
  | .mapping props entries => do
    let t ← Tag.read? d props.tag
    let env := env.openNode props (.mapping props entries) (.record [])
    let (values, env) ← resolveEntries d env entries
    let v ← mappingValue? d t values
    return (v, env.close props v)

def resolveItems (d : Directives) (env : Anchors) : List Node → Option (List Value × Anchors)
  | [] => some ([], env)
  | n :: rest => do
    let (v, env) ← resolve d env n
    let (vs, env) ← resolveItems d env rest
    return (v :: vs, env)

def resolveEntries (d : Directives) (env : Anchors) :
    List (Node × Node) → Option (List Entry × Anchors)
  | [] => some ([], env)
  | (k, v) :: rest => do
    let (key, env) ← resolve d env k
    let (value, env) ← resolve d env v
    let (entries, env) ← resolveEntries d env rest
    return (⟨k, key, value⟩ :: entries, env)

end

/-- The value that a text stands for; `none` if it is no document. -/
def parse? (text : String) : Option Value := do
  let document ← Document.read? text
  let (v, _) ← resolve document.directives [] document.root
  return v

end JobWatch.Yaml
