/-!
The node tree of a YAML document: what is written, before anchors, tags and types are resolved.
-/
namespace JobWatch.Yaml

/-- What may stand before a node: `&anchor` and `!tag`, the tag as it is written. -/
structure Props where
  anchor : Option String := none
  tag : Option String := none
deriving DecidableEq, Repr

namespace Props

def isEmpty (p : Props) : Bool := p.anchor.isNone && p.tag.isNone

/-- Properties from two lines together; each may be given only once. -/
def merge? (p q : Props) : Option Props :=
  if (p.anchor.isSome && q.anchor.isSome) || (p.tag.isSome && q.tag.isSome) then none
  else some ⟨p.anchor.or q.anchor, p.tag.or q.tag⟩

end Props

inductive Node where
  /-- Text; `plain` text stands neither in quotes nor in a block, and its type depends on it. -/
  | scalar (props : Props) (plain : Bool) (text : String)
  | reference (anchor : String)
  | sequence (props : Props) (items : List Node)
  | mapping (props : Props) (entries : List (Node × Node))
deriving BEq, Repr

namespace Node

/-- The node that is left out. -/
def blank (props : Props) : Node := scalar props true ""

/-- The node with properties in front of it. A reference takes none. -/
def withProps? (n : Node) (props : Props) : Option Node :=
  match n with
  | scalar _ plain text => some (scalar props plain text)
  | reference anchor => if props.isEmpty then some (reference anchor) else none
  | sequence _ items => some (sequence props items)
  | mapping _ entries => some (mapping props entries)

end Node

end JobWatch.Yaml
