import JobWatch.Yaml.Text

/-!
Reading nodes. Block collections are told by their columns: each level of nesting hands on the
least indentation of its lines. A collection ends where a line starts further to the left, and
a line that starts between two levels is a fault. All faults are alike, so a reader answers
with `none`. The fuel of the readers bounds the nesting and the number of entries.
-/
namespace JobWatch.Yaml

/-- The longest distance from the start of a key to its colon when no question mark precedes. -/
def longestKey : Nat := 1024

/-- Where a node of a block collection stands. -/
structure Place where
  /-- The least indentation of the node's lines. -/
  least : Nat
  /-- A block collection may start on the line of the indicator before it. -/
  compact : Bool
  /-- A block sequence may stand one column to the left of `least`. -/
  outdented : Bool
  /-- The node is the whole document. -/
  root : Bool
deriving DecidableEq, Repr

/-- A node behind `-`, in a sequence at column `col`. -/
def Place.item (col : Nat) : Place := ⟨col + 1, true, false, false⟩

/-- A node behind `?` or its colon, in a mapping at column `col`. -/
def Place.explicit (col : Nat) : Place := ⟨col + 1, true, true, false⟩

/-- A node behind the colon of a key without `?`, in a mapping at column `col`. -/
def Place.value (col : Nat) : Place := ⟨col + 1, false, true, false⟩

/-- The token at `c` belongs to a node at this place. -/
def Place.holds (p : Place) (g : Gap) (c : Cursor) : Bool :=
  !g.newline || p.least ≤ c.indent || (p.outdented && c.col + 1 == p.least && c.isIndicator '-')

/-- A token that starts no plain text and no other node. -/
def badPlain (c : Cursor) : Bool :=
  match c.rest with
  | [] => true
  | ch :: _ => isBadStart ch

def plain (flow : Bool) (m : Nat) (c : Cursor) : Option (Node × Cursor) :=
  if badPlain c then none
  else
    let n := plainLength flow m c.rest 0 0
    some (.scalar {} true (String.ofList (foldLines (c.rest.take n))), c.skip n)

/-- A quoted text; `c` stands at the opening quote. -/
def quoted (m : Nat) (c : Cursor) : Option (Node × Cursor) :=
  match c.rest with
  | '\'' :: body => do
    let n ← singleLength body 0
    if !allContinue m (body.take (n + 1)) then none
    let text := halveQuotes (foldLines (body.take n))
    return (.scalar {} false (String.ofList text), c.skip (n + 2))
  | '"' :: body => do
    let n ← doubleLength body 0
    if !allContinue m (body.take (n + 1)) then none
    let text ← unescape (n + 1) (body.take n)
    return (.scalar {} false (String.ofList text), c.skip (n + 2))
  | _ => none

/-- A reference; `c` stands at its asterisk. -/
def reference (c : Cursor) : Option (Node × Cursor) :=
  let n := (c.next.rest.takeWhile isNameChar).length
  if n = 0 then none else some (.reference (c.next.take n), c.skip (n + 1))

/-- A block text; `c` stands at its header. -/
def block (m : Nat) (c : Cursor) : Option (Node × Cursor) := do
  let folded := c.rest.head? == some '>'
  let marks := c.next.rest.takeWhile fun ch => !(isGapNext [ch] || ch == '#')
  let header ← Header.read? ⟨folded, none, none⟩ marks
  let c := (c.skip (marks.length + 1)).skipSpaces
  if !c.atLineEnd then none
  let c := c.skip (c.rest.takeWhile (· != '\n')).length
  match c.rest with
  | [] => return (.scalar {} false "", c)
  | _ =>
    let (text, n) ← blockOf header m c.next.rest
    return (.scalar {} false (String.ofList text), c.next.skip n)

/-! ### Flow collections -/

/-- Over a gap inside a flow collection. Further lines have to be indented, but the closing mark
of the outermost collection may stand one column to the left. -/
def flowGap (m level : Nat) (c : Cursor) : Option Cursor := do
  let (g, c) ← c.gap
  if !g.newline then return c
  let closing := match c.rest with
    | ch :: _ => ch == ']' || ch == '\x7d'
    | [] => false
  if c.atEnd then none
  if c.indent < m && !(c.indent + 1 = m && level = 1 && closing) then none
  return c

/-- A colon, question mark or dash that is an indicator in a flow collection. -/
def isFlowIndicator (mark : Char) (c : Cursor) : Bool :=
  match c.rest with
  | ch :: rest => ch == mark && (isGapNext rest || isFlowMarkNext rest)
  | [] => false

/-- The node is written so that a colon may follow it at once. -/
def endsClosed : Node → Bool
  | .scalar _ isPlain _ => !isPlain
  | .reference _ => false
  | .sequence _ _ => true
  | .mapping _ _ => true

/-- The colon behind a key stands here. -/
def atColon (key : Node) (c : Cursor) : Bool :=
  isFlowIndicator ':' c || (endsClosed key && c.rest.head? == some ':')

mutual

/-- A node of a flow collection; `c` stands at its first token. -/
def flowNode (m level : Nat) : Nat → Cursor → Option (Node × Cursor)
  | 0, _ => none
  | fuel + 1, c => do
    let (props, after) ← c.props true
    let c ← if props.isEmpty then some c else flowGap m level after
    match c.rest with
    | [] => none
    | ch :: _ =>
      if ch = ',' ∨ ch = ']' ∨ ch = '\x7d' ∨ isFlowIndicator ':' c then
        return (.blank props, c)
      else if isFlowIndicator '?' c || isFlowIndicator '-' c then none
      else
        let (node, c) ←
          if ch = '*' then reference c
          else if ch = '"' ∨ ch = '\'' then quoted m c
          else if ch = '[' ∨ ch = '\x7b' then flowCollection m (level + 1) fuel c
          else plain true m c
        return (← node.withProps? props, c)
termination_by structural fuel => fuel

/-- A flow collection; `c` stands at its opening mark. -/
def flowCollection (m level : Nat) : Nat → Cursor → Option (Node × Cursor)
  | 0, _ => none
  | fuel + 1, c =>
    if c.rest.head? == some '[' then do
      let (items, c) ← flowItems m level fuel false c.next
      return (.sequence {} items, c)
    else do
      let (entries, c) ← flowEntries m level fuel false c.next
      return (.mapping {} entries, c)
termination_by structural fuel => fuel

/-- The items of a flow sequence; `due` says that a comma has to come first. An item with a
colon is a mapping of one entry. -/
def flowItems (m level : Nat) : Nat → Bool → Cursor → Option (List Node × Cursor)
  | 0, _, _ => none
  | fuel + 1, due, c => do
    let c ← flowGap m level c
    match c.rest with
    | ']' :: _ => return ([], c.next)
    | ',' :: _ => if due then flowItems m level fuel false c.next else none
    | _ =>
      if due then none
      let explicit := isFlowIndicator '?' c
      let (key, value, after) ← flowPair m level (!explicit) fuel c
      let item := match value with
        | some value => .mapping {} [(key, value)]
        | none => if explicit then .mapping {} [(key, .blank {})] else key
      let (items, after) ← flowItems m level fuel true after
      return (item :: items, after)
termination_by structural fuel => fuel

def flowEntries (m level : Nat) : Nat → Bool → Cursor → Option (List (Node × Node) × Cursor)
  | 0, _, _ => none
  | fuel + 1, due, c => do
    let c ← flowGap m level c
    match c.rest with
    | '\x7d' :: _ => return ([], c.next)
    | ',' :: _ => if due then flowEntries m level fuel false c.next else none
    | _ =>
      if due then none
      let (key, value, after) ← flowPair m level false fuel c
      let (entries, after) ← flowEntries m level fuel true after
      return ((key, value.getD (.blank {})) :: entries, after)
termination_by structural fuel => fuel

/-- A key and the value behind its colon, if there is a colon. With `short` the colon has to be
on the line of the key's start and not too far from it. -/
def flowPair (m level : Nat) (short : Bool) :
    Nat → Cursor → Option (Node × Option Node × Cursor)
  | 0, _ => none
  | fuel + 1, start => do
    let c ← if isFlowIndicator '?' start then flowGap m level start.next else some start
    let (key, c) ← flowNode m level fuel c
    let colon ← flowGap m level c
    if atColon key colon then
      if short && (start.line != colon.line || start.pos + longestKey < colon.pos) then none
      let c ← flowGap m level colon.next
      let (value, c) ← flowNode m level fuel c
      return (key, some value, c)
    else return (key, none, c)
termination_by structural fuel => fuel

end

/-! ### Block collections -/

/-- A node that may be the key of a mapping; `c` stands at its first token behind properties. -/
def atom (m fuel : Nat) (c : Cursor) : Option (Node × Cursor) :=
  match c.rest with
  | '*' :: _ => reference c
  | '"' :: _ => quoted m c
  | '\'' :: _ => quoted m c
  | '[' :: _ => flowCollection m 1 fuel c
  | '\x7b' :: _ => flowCollection m 1 fuel c
  | _ => if c.isIndicator ':' then some (.blank {}, c) else plain false m c

/-- The key is on one line and its colon not too far away. -/
def isShortKey (start colon : Cursor) : Bool :=
  start.line == colon.line && colon.pos ≤ start.pos + longestKey

/-- What follows an entry of a block collection at column `col`: another line of the
collection, which starts at the cursor, or nothing. -/
def nextLine (col : Nat) (c : Cursor) : Option (Option Cursor) := do
  let (g, d) ← c.gap
  if d.atEnd then return none
  if !g.newline || g.tab || col < d.col then none
  return if d.col = col then some d else none

mutual

/-- A node of a block collection or a whole document. `outer` are the properties on the lines
before; `crossed` says that a line has ended since the indicator. -/
def blockNode (p : Place) : Nat → Props → Bool → Cursor → Option (Node × Cursor)
  | 0, _, _, _ => none
  | fuel + 1, outer, crossed, before => do
    let (g, start) ← before.gap
    if start.atEnd || !p.holds g start then return (.blank outer, before)
    let crossed := crossed || g.newline
    let (inner, c) ← start.props false
    if g.tab && !inner.isEmpty && (g.newline || p.compact) then none
    if !inner.isEmpty && c.atLineEnd then
      blockNode p fuel (← outer.merge? inner) crossed c
    else
      let mayNest := (crossed || p.compact) && !g.tab
      if c.isIndicator '-' then
        if !inner.isEmpty || !mayNest then none
        let (items, c) ← blockItems fuel c
        return (.sequence outer items, c)
      else if c.isIndicator '?' then
        if !inner.isEmpty || !mayNest then none
        let (entries, c) ← blockEntries fuel start
        return (.mapping outer entries, c)
      else match c.rest with
        | '|' :: _ | '>' :: _ =>
          let (node, c) ← block p.least c
          return (← node.withProps? (← outer.merge? inner), c)
        | _ =>
          let (node, after) ← atom p.least fuel c
          if after.skipSpaces.isIndicator ':' then
            if !mayNest || !isShortKey start after.skipSpaces then none
            let (entries, c) ← blockEntries fuel start
            return (.mapping outer entries, c)
          else
            let isFlow := match node with
              | .sequence _ _ | .mapping _ _ => true
              | _ => false
            if p.root && g.tab && g.newline && start.indent = 0 && !isFlow then none
            return (← node.withProps? (← outer.merge? inner), after)
termination_by structural fuel => fuel

/-- The items of a block sequence from the dash at `c` on. -/
def blockItems : Nat → Cursor → Option (List Node × Cursor)
  | 0, _ => none
  | fuel + 1, c => do
    let (item, after) ← blockNode (.item c.col) fuel {} false c.next
    match ← nextLine c.col after with
    | some d =>
      if d.isIndicator '-' then
        let (items, after) ← blockItems fuel d
        return (item :: items, after)
      else return ([item], after)
    | none => return ([item], after)
termination_by structural fuel => fuel

/-- The entries of a block mapping from the one that starts at `c` on. -/
def blockEntries : Nat → Cursor → Option (List (Node × Node) × Cursor)
  | 0, _ => none
  | fuel + 1, start => do
    let (key, value, after) ←
      if start.isIndicator '?' then explicitEntry fuel start else implicitEntry fuel start
    match ← nextLine start.col after with
    | some d =>
      if d.isIndicator '-' then none
      let (entries, after) ← blockEntries fuel d
      return ((key, value) :: entries, after)
    | none => return ([(key, value)], after)
termination_by structural fuel => fuel

/-- An entry whose key is followed by a colon on its line. -/
def implicitEntry : Nat → Cursor → Option (Node × Node × Cursor)
  | 0, _ => none
  | fuel + 1, start => do
    let (props, c) ← start.props false
    let (key, c) ← atom start.col fuel c
    let colon := c.skipSpaces
    if !colon.isIndicator ':' || !isShortKey start colon then none
    let key ← key.withProps? props
    let (value, after) ← blockNode (.value start.col) fuel {} false colon.next
    return (key, value, after)
termination_by structural fuel => fuel

/-- An entry whose key stands behind a question mark. The colon of its value starts a line of
the mapping, and without it the value is left out. -/
def explicitEntry : Nat → Cursor → Option (Node × Node × Cursor)
  | 0, _ => none
  | fuel + 1, start => do
    let place := Place.explicit start.col
    let (key, after) ← blockNode place fuel {} false start.next
    match ← nextLine start.col after with
    | some d =>
      if d.isIndicator ':' then
        let (value, after) ← blockNode place fuel {} false d.next
        return (key, value, after)
      else return (key, .blank {}, after)
    | none => return (key, .blank {}, after)
termination_by structural fuel => fuel

end

end JobWatch.Yaml
