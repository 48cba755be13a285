import JobWatch.Yaml.Cursor
import JobWatch.Text.Search

/-!
The texts of scalars. Plain and quoted texts may run over several lines, which are folded: one
line end is a space, further ones stay. Blocks keep their lines or fold them, by their header.
-/
namespace JobWatch.Yaml

/-- A text that is read with least indentation `m` goes on in the next line, which is given. -/
def continues (m : Nat) (s : List Char) : Bool :=
  if m = 0 then !isDocumentMarker s
  else
    let body := s.dropWhile (· == ' ')
    body.head? == some '\n' || m ≤ s.length - body.length

/-- Drops blanks at the end. -/
def trimEnd (s : List Char) : List Char := (s.reverse.dropWhile isSpace).reverse

/-- Joins lines after the first; `held` is what the line ends so far amount to. -/
def foldRest (held : Char) : List (List Char) → List Char
  | [] => []
  | [last] => held :: last.dropWhile isSpace
  | line :: rest =>
    let body := trimEnd (line.dropWhile isSpace)
    if body.isEmpty then
      if held = '\n' then '\n' :: foldRest '\n' rest else foldRest '\n' rest
    else held :: body ++ foldRest ' ' rest

def foldLines (s : List Char) : List Char :=
  match Text.split '\n' s with
  | [] => []
  | [line] => line
  | line :: rest => trimEnd line ++ foldRest ' ' rest

/-- The length of a plain text; `best` is the length up to the last character that is no blank. -/
def plainLength (flow : Bool) (m : Nat) : List Char → Nat → Nat → Nat
  | [], _, best => best
  | c :: rest, n, best =>
    if c = ':' then
      if isGapNext rest || (flow && isFlowMarkNext rest) then best
      else plainLength flow m rest (n + 1) (n + 1)
    else if isGapNext [c] then
      if rest.head? == some '#' || (flow && isFlowMarkNext rest) then best
      else if c = '\n' && !continues m rest then best
      else plainLength flow m rest (n + 1) best
    else if flow && isFlowMark c then best
    else plainLength flow m rest (n + 1) (n + 1)

/-- A plain text cannot start with one of these. -/
def isBadStart (c : Char) : Bool := ",%|>@`]\x7d".toList.contains c

/-- The length of a single-quoted text up to the closing quote. -/
def singleLength : List Char → Nat → Option Nat
  | '\'' :: '\'' :: rest, n => singleLength rest (n + 2)
  | '\'' :: _, n => some n
  | _ :: rest, n => singleLength rest (n + 1)
  | [], _ => none

/-- The length of a double-quoted text up to the closing quote. -/
def doubleLength : List Char → Nat → Option Nat
  | '\\' :: _ :: rest, n => doubleLength rest (n + 2)
  | '"' :: _, n => some n
  | _ :: rest, n => doubleLength rest (n + 1)
  | [], _ => none

/-- Every line of a text but the first is indented far enough. -/
def allContinue (m : Nat) : List Char → Bool
  | [] => true
  | c :: rest => (c != '\n' || continues m rest) && allContinue m rest

/-- Two quotes stand for one. -/
def halveQuotes : List Char → List Char
  | '\'' :: '\'' :: rest => '\'' :: halveQuotes rest
  | c :: rest => c :: halveQuotes rest
  | [] => []

def hexValue (s : List Char) : Option Nat :=
  if s.all isHexDigit then
    some (s.foldl (fun n c =>
      n * 16 + (if c.isDigit then c.toNat - 48 else (c.toNat ||| 32) - 87)) 0)
  else none

/-- The escapes of one character. -/
def escapes : List (Char × Nat) :=
  [('0', 0), ('a', 7), ('b', 8), ('e', 27), ('f', 12), ('n', 10), ('r', 13), ('t', 9), ('v', 11),
    ('N', 0x85), ('_', 0xA0), ('L', 0x2028), ('P', 0x2029), (' ', 32), ('"', 34), ('/', 47),
    ('\\', 92), ('\t', 9)]

/-- The digits of an escape by number. -/
def escapeDigits : Char → Nat
  | 'x' => 2
  | 'u' => 4
  | 'U' => 8
  | _ => 0

/-- A number of `count` hexadecimal digits. -/
def codeOf (count : Nat) (s : List Char) : Option (Nat × List Char) :=
  if s.length < count then none
  else (hexValue (s.take count)).map fun code => (code, s.drop count)

/-- The second half of a character that is escaped in two halves. -/
def trailHalf : List Char → Option (Nat × List Char)
  | '\\' :: 'u' :: rest => (codeOf 4 rest).filter fun r => 0xDC00 ≤ r.1 && r.1 ≤ 0xDFFF
  | _ => none

/-- The text of a double-quoted scalar. -/
def unescape : Nat → List Char → Option (List Char)
  | 0, _ => none
  | _ + 1, [] => some []
  | fuel + 1, '\n' :: rest =>
    let body := rest.dropWhile fun c => isSpace c || c == '\n'
    let breaks := (rest.take (rest.length - body.length)).count '\n'
    (unescape fuel body).map fun t =>
      (if breaks = 0 then [' '] else List.replicate breaks '\n') ++ t
  | fuel + 1, '\\' :: '\n' :: rest => unescape fuel (rest.dropWhile isSpace)
  | fuel + 1, '\\' :: c :: rest =>
    match escapes.lookup c with
    | some code => (unescape fuel rest).map (Char.ofNat code :: ·)
    | none =>
      if escapeDigits c = 0 then none
      else do
        let (code, rest) ← codeOf (escapeDigits c) rest
        if 0x10FFFF < code then none
        match if 0xD800 ≤ code && code ≤ 0xDBFF then trailHalf rest else none with
        | some (trail, rest) =>
          let full := 0x10000 + (code - 0xD800) * 0x400 + (trail - 0xDC00)
          return Char.ofNat full :: (← unescape fuel rest)
        | none =>
          let shown := if 0xD800 ≤ code && code ≤ 0xDFFF then 0xFFFD else code
          return Char.ofNat shown :: (← unescape fuel rest)
  | _ + 1, '\\' :: [] => none
  | fuel + 1, c :: rest =>
    if isSpace c then
      let body := rest.dropWhile isSpace
      let blanks := c :: rest.take (rest.length - body.length)
      (unescape fuel body).map fun t => if body.head? == some '\n' then t else blanks ++ t
    else (unescape fuel rest).map (c :: ·)

/-! ### Blocks -/

/-- What becomes of the line ends at the end of a block. -/
inductive Chomp where
  | strip
  | clip
  | keep
deriving DecidableEq, Repr

structure Header where
  folded : Bool
  chomp : Option Chomp
  /-- The indentation relative to the parent, if it is given. -/
  indent : Option Nat
deriving DecidableEq, Repr

def Header.read? (h : Header) : List Char → Option Header
  | [] => some h
  | c :: rest =>
    if (c = '-' ∨ c = '+') ∧ h.chomp = none then
      Header.read? { h with chomp := some (if c = '-' then .strip else .keep) } rest
    else if '1' ≤ c ∧ c ≤ '9' ∧ h.indent = none then
      Header.read? { h with indent := some (c.toNat - 48) } rest
    else none

/-- A line of a block: the number of leading spaces and the text after them. -/
structure Line where
  indent : Nat
  text : List Char
deriving DecidableEq, Repr

def Line.ofText (s : List Char) : Line :=
  let body := s.dropWhile (· == ' ')
  ⟨s.length - body.length, body⟩

def Line.isBlank (l : Line) : Bool := l.text.isEmpty

/-- The number of lines that belong to a block whose lines are indented by `least` or more. At
the top level of a document a marker ends the block, too. -/
def blockLength (least : Nat) : List (List Char) → Nat
  | [] => 0
  | [last] =>
    if (if least = 0 then !isDocumentMarker last else least ≤ (Line.ofText last).indent) then 1
    else 0
  | line :: rest =>
    let l := Line.ofText line
    let inside := if least = 0 then !isDocumentMarker line else l.isBlank || least ≤ l.indent
    if inside then blockLength least rest + 1 else 0

/-- The indentation of the first line that is not blank, or of the last one. -/
def firstIndent : List Line → Nat
  | [] => 0
  | [l] => l.indent
  | l :: rest => if l.isBlank then firstIndent rest else l.indent

/-- Drops blank lines, given last first, that are not longer than the indentation. -/
def dropShortBlanks (indent : Nat) : List Line → List Line
  | a :: b :: rest =>
    if a.isBlank && a.indent ≤ indent then dropShortBlanks indent (b :: rest) else a :: b :: rest
  | lines => lines

/-- The state of folding: the separator that is due, and whether the line before was indented
further than the block. -/
structure Fold where
  due : List Char
  deeper : Bool

/-- The lines of the body of a block, the indentation `trim` taken away. -/
def bodyText (folded : Bool) (trim : Nat) : Fold → List Line → Option (List Char)
  | _, [] => some []
  | f, l :: rest =>
    if !l.isBlank && l.indent < trim then none
    else
      let shown := List.replicate (l.indent - trim) ' ' ++ l.text
      if !folded then (bodyText folded trim ⟨['\n'], false⟩ rest).map (f.due ++ shown ++ ·)
      else if trim < l.indent || l.text.head? == some '\t' then
        let due := if f.due == [' '] then ['\n']
          else if !f.deeper && f.due == ['\n'] then ['\n', '\n'] else f.due
        (bodyText folded trim ⟨['\n'], true⟩ rest).map (due ++ shown ++ ·)
      else if l.isBlank then
        if f.due == ['\n'] then (bodyText folded trim f rest).map ('\n' :: ·)
        else bodyText folded trim { f with due := ['\n'] } rest
      else (bodyText folded trim ⟨[' '], false⟩ rest).map (f.due ++ l.text ++ ·)

/-- The indentation that the lines of a block lose, found from its first lines: `n` is that of
the parent. -/
def trimOf (given : Bool) (root : Bool) : Nat → List Line → Option Nat
  | n, [] => some n
  | n, l :: rest =>
    if l.isBlank then trimOf given root (if !given && n < l.indent then l.indent else n) rest
    else if l.indent < n then none
    else
      let trim := if given then n else l.indent
      if trim = 0 && !root then none else some trim

/-- The text of a block from its lines; the last one is what stands behind the last line end. -/
def blockText (h : Header) (parent : Nat) (root : Bool) (lines : List Line) : Option (List Char) :=
  let chomp := h.chomp.getD .clip
  let content := (lines.reverse.dropWhile Line.isBlank).reverse
  if content.isEmpty then
    some (if chomp = .keep && !lines.isEmpty then
      List.replicate (max 1 (lines.length - 1)) '\n' else [])
  else do
    let trim ← trimOf h.indent.isSome root (parent + h.indent.getD 0) content
    let trailing := lines.drop content.length
    let deep := (trailing.reverse.dropWhile fun l => !(trim < l.indent)).reverse
    let leading := content.takeWhile Line.isBlank
    let body ← bodyText h.folded trim ⟨[], false⟩ (content.drop leading.length ++ deep)
    let text := (leading.map fun l => List.replicate (l.indent - trim) ' ' ++ ['\n']).flatten ++ body
    match chomp with
    | .strip => return text
    | .clip => return text ++ ['\n']
    | .keep =>
      let kept := (trailing.drop deep.length).map fun l =>
        '\n' :: List.replicate (l.indent - trim) ' '
      let text := text ++ kept.flatten
      return if text.getLast? = some '\n' then text else text ++ ['\n']

/-- The block after a header: its text, and how much of what follows it takes. `m` is the least
indentation of its lines. -/
def blockOf (h : Header) (m : Nat) (s : List Char) : Option (List Char × Nat) :=
  let all := Text.split '\n' s
  let indent := firstIndent (all.map Line.ofText)
  let blanks := (all.takeWhile fun l => (Line.ofText l).isBlank).length
  let count :=
    if indent < m then min blanks (all.length - 1)
    else blockLength ((h.indent.map fun i => i - 1 + max m 1).getD indent) all
  let taken := all.take count
  let lines := taken.map Line.ofText
  let whole := count = all.length
  if ((all.drop count).head?.map fun l => (Line.ofText l).text.head?) == some (some '\t') then none
  else
    let lines := if whole then lines else lines ++ [⟨0, []⟩]
    let lines := if h.chomp = some .keep then lines
      else match lines.reverse with
        | last :: rest => (if whole then dropShortBlanks indent (last :: rest)
            else last :: dropShortBlanks indent rest).reverse
        | [] => []
    (blockText h (m - 1) (m = 0) lines).map fun t =>
      (t, taken.foldl (fun n l => n + l.length + 1) 0 - (if whole then 1 else 0))

end JobWatch.Yaml
