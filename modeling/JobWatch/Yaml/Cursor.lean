import JobWatch.Yaml.Node

/-!
A place in the text of a document, and the steps over blanks, comments and properties.
Lines end with a line feed.
-/
namespace JobWatch.Yaml

/-- A place: the text that follows it and where on its line it is. -/
structure Cursor where
  rest : List Char
  pos : Nat
  line : Nat
  col : Nat
  /-- The number of spaces that the line starts with, as far as they have been passed. -/
  indent : Nat
  /-- The character before this place is a blank or the end of a line. -/
  spaced : Bool
deriving DecidableEq, Repr

def isSpace (c : Char) : Bool := c == ' ' || c == '\t'

/-- What follows is a blank, the end of the line or nothing. -/
def isGapNext : List Char → Bool
  | [] => true
  | c :: _ => isSpace c || c == '\n' || c == '\r'

/-- The characters that bound the parts of a flow collection. -/
def isFlowMark (c : Char) : Bool :=
  c == ',' || c == '[' || c == ']' || c == '\x7b' || c == '\x7d'

def isFlowMarkNext : List Char → Bool
  | [] => false
  | c :: _ => isFlowMark c

/-- The text starts with a line of the given three characters. -/
def isMarker (mark : Char) : List Char → Bool
  | a :: b :: c :: rest => a == mark && b == mark && c == mark && isGapNext rest
  | _ => false

/-- The line starts or ends a document. -/
def isDocumentMarker (s : List Char) : Bool := isMarker '-' s || isMarker '.' s

namespace Cursor

def start (text : List Char) : Cursor := ⟨text, 0, 0, 0, 0, true⟩

def next (c : Cursor) : Cursor :=
  match c.rest with
  | [] => c
  | '\n' :: rest => ⟨rest, c.pos + 1, c.line + 1, 0, 0, true⟩
  | ch :: rest =>
    ⟨rest, c.pos + 1, c.line, c.col + 1,
      if ch = ' ' ∧ c.indent = c.col then c.indent + 1 else c.indent, isSpace ch⟩

def skip (c : Cursor) : Nat → Cursor
  | 0 => c
  | n + 1 => c.next.skip n

/-- Nothing of the document is left. -/
def atEnd (c : Cursor) : Bool := c.rest.isEmpty || (c.col == 0 && isDocumentMarker c.rest)

/-- A one-character indicator of a block collection stands here. -/
def isIndicator (mark : Char) (c : Cursor) : Bool :=
  match c.rest with
  | ch :: rest => ch == mark && isGapNext rest
  | [] => false

/-- Over the blanks of this line. -/
def skipSpaces (c : Cursor) : Cursor := c.skip (c.rest.takeWhile isSpace).length

def atLineEnd (c : Cursor) : Bool :=
  match c.rest with
  | [] => true
  | ch :: _ => ch == '\n' || (ch == '#' && c.spaced)

end Cursor

/-- What separates two tokens. -/
structure Gap where
  /-- The second token is on a line of its own. -/
  newline : Bool
  /-- A tab stands before it on its line. -/
  tab : Bool
deriving DecidableEq, Repr

/-- The length of the blanks, line ends and comments that a text starts with. A comment has to
follow a blank. -/
def gapLength (comment spaced : Bool) (n : Nat) (g : Gap) : List Char → Option (Nat × Gap)
  | [] => some (n, g)
  | c :: rest =>
    if c = '\n' then gapLength false true (n + 1) ⟨true, false⟩ rest
    else if comment then gapLength true true (n + 1) g rest
    else if c = ' ' then gapLength false true (n + 1) g rest
    else if c = '\t' ∨ c = '\r' then gapLength false true (n + 1) { g with tab := true } rest
    else if c = '#' then (if spaced then gapLength true true (n + 1) g rest else none)
    else some (n, g)

namespace Cursor

def gap (c : Cursor) : Option (Gap × Cursor) := do
  let (n, g) ← gapLength false c.spaced 0 ⟨c.col == 0, false⟩ c.rest
  return (g, c.skip n)

end Cursor

/-- The characters that a tag is written with. -/
def isTagChar (c : Char) : Bool :=
  c.isAlphanum || "-#;/?:@&=+$_.!~*'()".toList.contains c

def isHexDigit (c : Char) : Bool :=
  c.isDigit || ('a' ≤ c && c ≤ 'f') || ('A' ≤ c && c ≤ 'F')

def tagLength : List Char → Nat
  | '%' :: a :: b :: rest => if isHexDigit a && isHexDigit b then tagLength rest + 3 else 0
  | c :: rest => if isTagChar c then tagLength rest + 1 else 0
  | [] => 0

/-- The length of a tag between angle brackets, behind the opening one. -/
def verbatimLength : List Char → Nat
  | [] => 0
  | c :: rest => if c = '>' then 1 else if isGapNext (c :: rest) then 0 else verbatimLength rest + 1

def isNameChar (c : Char) : Bool := !(isGapNext [c] || isFlowMark c)

namespace Cursor

def take (c : Cursor) (n : Nat) : String := String.ofList (c.rest.take n)

/-- Properties on one line and the blanks after them. Each has to be followed by a blank, in a
flow collection also by a comma; where nothing follows in the collection, by its end. -/
def propsFrom (flow : Bool) : Nat → Props → Cursor → Option (Props × Cursor)
  | 0, _, _ => none
  | fuel + 1, p, c =>
    let continue? (p : Props) (c : Cursor) : Option (Props × Cursor) :=
      if isGapNext c.rest || (flow && isFlowMarkNext c.rest
          && c.rest.head? != some '[' && c.rest.head? != some '\x7b') then
        propsFrom flow fuel p c.skipSpaces
      else none
    match c.rest with
    | '&' :: rest =>
      let n := (rest.takeWhile isNameChar).length
      if n = 0 || p.anchor.isSome then none
      else continue? { p with anchor := some (c.next.take n) } (c.skip (n + 1))
    | '!' :: rest =>
      let n := match rest with
        | '<' :: body => verbatimLength body + 2
        | _ => tagLength rest + 1
      if p.tag.isSome then none
      else continue? { p with tag := some (c.take n) } (c.skip n)
    | _ => some (p, c)

def props (flow : Bool) (c : Cursor) : Option (Props × Cursor) :=
  propsFrom flow (c.rest.length + 1) {} c

end Cursor

end JobWatch.Yaml
