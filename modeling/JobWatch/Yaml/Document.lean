import JobWatch.Yaml.Reader

/-!
A text as one document: its directives, its markers and its root node.
-/
namespace JobWatch.Yaml

/-- The directives of a document. -/
structure Directives where
  /-- The document follows version 1.1. -/
  legacy : Bool
  /-- What the handles of tags stand for, the latest directive first. -/
  handles : List (String × String)
  /-- There is a directive. -/
  given : Bool
deriving DecidableEq, Repr

structure Document where
  directives : Directives
  root : Node
deriving BEq, Repr

def Directives.none : Directives := ⟨false, [("!!", "tag:yaml.org,2002:")], false⟩

/-- The words of a line. -/
def words : List Char → List Char → List String
  | word, [] => if word.isEmpty then [] else [String.ofList word.reverse]
  | word, c :: rest =>
    if isSpace c then
      if word.isEmpty then words [] rest else String.ofList word.reverse :: words [] rest
    else words (c :: word) rest

/-- A line without the comment at its end. -/
def withoutComment (spaced : Bool) : List Char → List Char
  | [] => []
  | c :: rest => if c = '#' ∧ spaced then [] else c :: withoutComment (isSpace c) rest

/-- A version as two numbers with a point between. -/
def isVersion (s : List Char) : Bool :=
  match Text.split '.' s with
  | [major, minor] =>
    !major.isEmpty && major.all Char.isDigit && !minor.isEmpty && minor.all Char.isDigit
  | _ => false

/-- A directive taken into account. Unknown ones are passed over. -/
def Directives.add? (d : Directives) (line : List Char) : Option Directives :=
  match words [] (withoutComment false line) with
  | ["%YAML", version] =>
    if version = "1.1" then some { d with legacy := true, given := true }
    else if version = "1.2" then some { d with legacy := false, given := true }
    else if isVersion version.toList then some { d with given := true }
    else Option.none
  | "%YAML" :: _ => Option.none
  | ["%TAG", handle, start] =>
    some { d with handles := (handle, start) :: d.handles, given := true }
  | "%TAG" :: _ => Option.none
  | _ => some { d with given := true }

/-- A line of blanks and comments only. -/
def isBlankLine (line : List Char) : Bool :=
  let body := line.dropWhile isSpace
  body.isEmpty || body.head? == some '#'

/-- Over the lines in front of a document. -/
def prelude : Nat → Directives → Cursor → Option (Directives × Cursor)
  | 0, d, c => some (d, c)
  | fuel + 1, d, c =>
    let line := c.rest.takeWhile (· != '\n')
    let following := c.skip (line.length + 1)
    if c.rest.isEmpty then some (d, c)
    else if line.head? == some '%' then
      (d.add? line).bind fun d => prelude fuel d following
    else if isBlankLine line then prelude fuel d following
    else some (d, c)

/-- Nothing follows the document: the text ends, or a line of three points ends the document and
only comments and directives come after it. -/
def endsText (c : Cursor) : Bool :=
  if c.rest.isEmpty then true
  else if isMarker '.' c.rest then
    match Text.split '\n' (c.rest.drop 3) with
    | first :: others => isBlankLine first && others.all fun l => isBlankLine l || l.head? == some '%'
    | [] => true
  else false

/-- A line end is a line feed alone. -/
def joinLineEnds : List Char → List Char
  | '\r' :: '\n' :: rest => '\n' :: joinLineEnds rest
  | c :: rest => c :: joinLineEnds rest
  | [] => []

def withoutMark : List Char → List Char
  | c :: rest => if c = '\uFEFF' then rest else c :: rest
  | [] => []

/-- The one document of a text. A text without a document is one with nothing in it. -/
def Document.read? (text : String) : Option Document := do
  let chars := joinLineEnds (withoutMark text.toList)
  let fuel := 8 * (chars.length + 4)
  let (directives, c) ← prelude fuel .none (Cursor.start chars)
  let marked := isMarker '-' c.rest
  if directives.given && !marked then none
  let c := if marked then c.skip 3 else c
  let (root, c) ← blockNode ⟨0, !marked, false, true⟩ fuel {} false c
  let (g, c) ← c.gap
  if !(c.atEnd && (g.newline || c.rest.isEmpty)) || !endsText c then none
  return ⟨directives, root⟩

end JobWatch.Yaml
