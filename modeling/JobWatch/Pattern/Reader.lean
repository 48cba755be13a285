import JobWatch.Pattern.Syntax
import JobWatch.Text.Units

/-!
Reading a pattern. The reader walks the text once with a stack of open groups, and the first
fault ends it. Without the Unicode flag the forgiving old syntax holds: a brace or bracket that
starts nothing stands for itself, unknown escapes stand for the escaped character, and numeric
escapes that refer to no group are octal.
-/
namespace JobWatch.Pattern

def isDigit (c : Nat) : Bool := 48 ≤ c && c ≤ 57

def isOctal (c : Nat) : Bool := 48 ≤ c && c ≤ 55

def isLetter (c : Nat) : Bool := (65 ≤ c && c ≤ 90) || (97 ≤ c && c ≤ 122)

/-- Names are identifiers; `$` and `_` may stand in them anywhere. -/
def startsName (c : Nat) : Bool :=
  isLetter c || c == 36 || c == 95 || (0x80 ≤ c && Text.startsIdentifier c)

def continuesName (c : Nat) : Bool :=
  startsName c || isDigit c || (0x80 ≤ c && Text.continuesIdentifier c)

/-- The code point of two units that belong together. -/
def pair? (lead trail : Nat) : Option Nat :=
  if 0xD800 ≤ lead && lead ≤ 0xDBFF && 0xDC00 ≤ trail && trail ≤ 0xDFFF then
    some (0x10000 + (lead - 0xD800) * 0x400 + (trail - 0xDC00))
  else none

/-- The first code point of a text, and what comes after it. -/
def firstPoint (c : Nat) (rest : List Nat) : Nat × List Nat :=
  match rest with
  | [] => (c, [])
  | d :: after =>
    match pair? c d with
    | some point => (point, after)
    | none => (c, rest)

def hexDigit? (c : Nat) : Option Nat :=
  if isDigit c then some (c - 48)
  else if 97 ≤ c && c ≤ 102 then some (c - 87)
  else if 65 ≤ c && c ≤ 70 then some (c - 55)
  else none

/-- Exactly `count` hexadecimal digits. -/
def hexDigits? : Nat → Nat → List Nat → Option (Nat × List Nat)
  | 0, value, rest => some (value, rest)
  | _ + 1, _, [] => none
  | count + 1, value, c :: rest =>
    match hexDigit? c with
    | some d => hexDigits? count (value * 16 + d) rest
    | none => none

/-- Hexadecimal digits up to a closing brace, at least one. -/
def hexUntilBrace? (value : Nat) (some? : Bool) : List Nat → Option (Nat × List Nat)
  | [] => none
  | c :: rest =>
    if c = 125 then (if some? then some (value, rest) else none)
    else match hexDigit? c with
      | some d => if value * 16 + d ≤ 0x10FFFF then hexUntilBrace? (value * 16 + d) true rest else none
      | none => none

/-- What follows the letter `u` of an escape. -/
def unicodeEscape? (unicode : Bool) : List Nat → Option (Nat × List Nat)
  | 123 :: rest => if unicode then hexUntilBrace? 0 false rest else none
  | rest => match hexDigits? 4 0 rest with
    | none => none
    | some (lead, after) =>
      if unicode then
        match after with
        | 92 :: 117 :: more => match hexDigits? 4 0 more with
          | some (trail, final) => match pair? lead trail with
            | some point => some (point, final)
            | none => some (lead, after)
          | none => some (lead, after)
        | _ => some (lead, after)
      else some (lead, after)

/-- Up to three octal digits with a value below 256, the first of them given. -/
def octal (first : Nat) : List Nat → Nat × List Nat
  | [] => (first, [])
  | c :: rest =>
    if isOctal c then
      let value := first * 8 + (c - 48)
      match rest with
      | [] => (value, [])
      | d :: more =>
        if value < 32 && isOctal d then (value * 8 + (d - 48), more) else (value, d :: more)
    else (first, c :: rest)

def decimal (value : Nat) : List Nat → Nat × List Nat
  | [] => (value, [])
  | c :: rest => if isDigit c then decimal (value * 10 + (c - 48)) rest else (value, c :: rest)

/-- The number of captures in a pattern and whether one of them has a name, found without
reading it: escapes and sets are skipped. -/
def census : List Nat → Bool → Nat → Bool → Nat × Bool
  | [], _, count, hasName => (count, hasName)
  | 92 :: _ :: rest, inSet, count, hasName => census rest inSet count hasName
  | 93 :: rest, true, count, hasName => census rest false count hasName
  | _ :: rest, true, count, hasName => census rest true count hasName
  | 91 :: rest, false, count, hasName => census rest true count hasName
  | 40 :: 63 :: 60 :: rest, false, count, hasName =>
    if rest.head? == some 61 || rest.head? == some 33 then census rest false count hasName
    else census rest false (count + 1) true
  | 40 :: 63 :: rest, false, count, hasName => census rest false count hasName
  | 40 :: rest, false, count, hasName => census rest false (count + 1) hasName
  | _ :: rest, false, count, hasName => census rest false count hasName
termination_by text => text.length

/-- What stays the same while a pattern is read. -/
structure Setting where
  unicode : Bool
  captures : Nat
  hasNames : Bool

def classLetter? : Nat → Option (CharClass × Bool)
  | 100 => some (.digit, false)
  | 68 => some (.digit, true)
  | 115 => some (.space, false)
  | 83 => some (.space, true)
  | 119 => some (.word, false)
  | 87 => some (.word, true)
  | _ => none

/-- The characters of a property's name. -/
def namesProperty (c : Nat) : Bool := isLetter c || isDigit c || c == 95

/-- The property in braces behind the letter `p` of an escape. -/
def property? : List Nat → Option (List Text.CodeRun × List Nat)
  | 123 :: text =>
    let word (codes : List Nat) : String := String.ofList (codes.map Char.ofNat)
    let name := text.takeWhile namesProperty
    match text.drop name.length with
    | 125 :: rest => (Text.property? (word name)).map (·, rest)
    | 61 :: text =>
      let value := text.takeWhile namesProperty
      match text.drop value.length with
      | 125 :: rest => (Text.propertyValue? (word name) (word value)).map (·, rest)
      | _ => none
    | _ => none
  | _ => none

/-- The characters that keep a meaning of their own and may be escaped under the Unicode flag. -/
def isSyntax (c : Nat) : Bool :=
  "^$\\.*+?()[]\x7b\x7d|/".toList.any fun d => d.toNat == c

/-- The character for an escape, read from behind the backslash. -/
def escape (s : Setting) (inSet : Bool) : List Nat → Except Fault (Nat × List Nat)
  | [] => .error .escapeAtEnd
  | 102 :: rest => .ok (12, rest)
  | 110 :: rest => .ok (10, rest)
  | 114 :: rest => .ok (13, rest)
  | 116 :: rest => .ok (9, rest)
  | 118 :: rest => .ok (11, rest)
  | 99 :: rest =>
    match rest with
    | c :: more =>
      if isLetter c then .ok (c % 32, more)
      else if s.unicode then .error .invalidUnicodeEscape
      else if inSet && (isDigit c || c == 95) then .ok (c % 32, more)
      else .ok (92, 99 :: rest)
    | [] => if s.unicode then .error .invalidUnicodeEscape else .ok (92, 99 :: rest)
  | 120 :: rest =>
    match hexDigits? 2 0 rest with
    | some r => .ok r
    | none => if s.unicode then .error .invalidEscape else .ok (120, rest)
  | 117 :: rest =>
    match unicodeEscape? s.unicode rest with
    | some r => .ok r
    | none => if s.unicode then .error .invalidUnicodeEscape else .ok (117, rest)
  | c :: rest =>
    if isOctal c then
      if s.unicode then
        if c == 48 && !(rest.head?.any isDigit) then .ok (0, rest)
        else .error (if inSet then .invalidClassEscape else .invalidDecimalEscape)
      else .ok (octal (c - 48) rest)
    else if s.unicode && !(isSyntax c || (inSet && c == 45)) then .error .invalidEscape
    else if !s.unicode && c == 107 && s.hasNames then .error .invalidEscape
    else .ok (c, rest)

/-- An end of a range in a set: a character, or a class that cannot be an end. -/
def setAtom (s : Setting) : List Nat → Except Fault ((Nat ⊕ Member) × List Nat)
  | 92 :: 98 :: rest => .ok (.inl 8, rest)
  | 92 :: c :: rest =>
    match classLetter? c with
    | some (k, negated) => .ok (.inr (.named k negated), rest)
    | none =>
      if s.unicode && (c == 112 || c == 80) then
        match property? rest with
        | some (runs, after) => .ok (.inr (.having runs (c == 80)), after)
        | none => .error .invalidClassProperty
      else (escape s true (c :: rest)).map fun r => (.inl r.1, r.2)
  | 92 :: [] => .error .escapeAtEnd
  | c :: rest => .ok (.inl c, rest)
  | [] => .error .unterminatedClass

def asMember : Nat ⊕ Member → Member
  | .inl c => .range c c
  | .inr m => m

/-- The members of a set up to its closing bracket, read from behind the opening one. -/
def setMembers (s : Setting) : Nat → List Member → List Nat → Except Fault (List Member × List Nat)
  | 0, _, _ => .error .unterminatedClass
  | _ + 1, _, [] => .error .unterminatedClass
  | _ + 1, members, 93 :: rest => .ok (members, rest)
  | fuel + 1, members, text => do
    let (first, rest) ← setAtom s text
    match rest with
    | 45 :: more =>
      match more with
      | [] => .error .unterminatedClass
      | 93 :: after => .ok (members ++ [asMember first, .range 45 45], after)
      | _ => do
        let (second, after) ← setAtom s more
        match first, second with
        | .inl low, .inl high =>
          if high < low then .error .rangeOutOfOrder
          else setMembers s fuel (members ++ [.range low high]) after
        | _, _ =>
          if s.unicode then .error .invalidClass
          else setMembers s fuel (members ++ [asMember first, .range 45 45, asMember second]) after
    | _ => setMembers s fuel (members ++ [asMember first]) rest

/-- A group name up to `>`, as code points under either flag. What ends it may be escaped, as any
other character of it. -/
def groupName : Nat → List Nat → List Nat → Except Fault (List Nat × List Nat)
  | 0, _, _ => .error .invalidGroupName
  | _ + 1, _, [] => .error .invalidGroupName
  | fuel + 1, name, c :: rest => do
    let (point, after) ← match c, rest with
      | 92, 117 :: more => (match unicodeEscape? true more with
        | some r => .ok r
        | none => .error .invalidUnicodeEscape)
      | 92, _ => .error .invalidGroupName
      | _, _ => .ok (firstPoint c rest)
    if point == 62 && !name.isEmpty then return (name, after)
    if (if name.isEmpty then startsName point else continuesName point) then
      groupName fuel (name ++ [point]) after
    else .error .invalidGroupName

/-- The bounds in braces, read from behind the opening brace; `none` if it opens no bounds. -/
def bounds? (text : List Nat) : Option ((Nat × Option Nat) × List Nat) :=
  match text with
  | [] => none
  | c :: _ =>
    if isDigit c then
      let (least, rest) := decimal 0 text
      match rest with
      | 125 :: after => some ((least, some least), after)
      | 44 :: 125 :: after => some ((least, none), after)
      | 44 :: more =>
        let (most, rest) := decimal 0 more
        match rest with
        | 125 :: after => some ((least, some most), after)
        | _ => none
      | _ => none
    else none

inductive GroupKind where
  | whole
  | plain
  | capture (index : Nat) (name : Option (List Nat))
  | look (behind negated : Bool)

/-- The names of captures, with that of a group that has been read. -/
def GroupKind.file (names : List (List Nat × Nat)) :
    GroupKind → Except Fault (List (List Nat × Nat))
  | .capture index (some name) =>
    if names.any (·.1 == name) then .error .duplicateGroupName else .ok (names ++ [(name, index)])
  | _ => .ok names

/-- A group that is still open: the alternatives before the last bar and the terms after it,
both with the latest first, and the number of captures opened before the group. -/
structure Frame where
  kind : GroupKind
  alternatives : List Node
  terms : List Node
  captured : Nat

/-- Concatenates terms given with the latest first. -/
def concat (terms : List Node) : Node :=
  terms.foldl (fun acc t => match acc with | .empty => t | _ => .seq t acc) .empty

/-- The tree of a frame's content. -/
def Frame.body (f : Frame) : Node :=
  f.alternatives.foldl (fun acc a => .alt a acc) (concat f.terms)

structure Reading where
  top : Frame
  outer : List Frame
  captured : Nat
  names : List (List Nat × Nat)
  references : List (List Nat)

def Reading.push (r : Reading) (n : Node) : Reading :=
  { r with top := { r.top with terms := n :: r.top.terms } }

/-- A term that a quantifier may follow. -/
structure Term where
  node : Node
  /-- Whether the term is a lookahead or a lookbehind. -/
  looks : Option Bool
  /-- The number of captures opened before the term. -/
  captured : Nat

/-- Adds a term with the quantifier that follows it, if there is one. -/
def quantified (s : Setting) (r : Reading) (t : Term) (text : List Nat) :
    Except Fault (Reading × List Nat) :=
  let wrap (least : Nat) (most : Option Nat) (rest : List Nat) :
      Except Fault (Reading × List Nat) :=
    let (greedy, after) := match rest with
      | 63 :: after => (false, after)
      | _ => (true, rest)
    match t.looks with
    | some behind =>
      if s.unicode || behind then .error .invalidQuantifier
      else .ok (r.push (.rounds least most greedy t.captured r.captured t.node), after)
    | none => .ok (r.push (.rounds least most greedy t.captured r.captured t.node), after)
  match text with
  | 42 :: rest => wrap 0 none rest
  | 43 :: rest => wrap 1 none rest
  | 63 :: rest => wrap 0 (some 1) rest
  | 123 :: rest =>
    match bounds? rest with
    | some ((least, most), after) =>
      if most.any (· < least) then .error .numbersOutOfOrder else wrap least most after
    | none =>
      if s.unicode then .error .incompleteQuantifier else .ok (r.push t.node, text)
  | _ => .ok (r.push t.node, text)

/-- Opens a group, read from behind its parenthesis. -/
def openGroup (r : Reading) (text : List Nat) : Except Fault (Reading × List Nat) :=
  let enter (kind : GroupKind) : Reading :=
    { r with top := ⟨kind, [], [], r.captured⟩, outer := r.top :: r.outer }
  let enterCapture (name : Option (List Nat)) : Reading :=
    { enter (.capture r.captured name) with captured := r.captured + 1 }
  match text with
  | 63 :: 58 :: rest => .ok (enter .plain, rest)
  | 63 :: 61 :: rest => .ok (enter (.look false false), rest)
  | 63 :: 33 :: rest => .ok (enter (.look false true), rest)
  | 63 :: 60 :: 61 :: rest => .ok (enter (.look true false), rest)
  | 63 :: 60 :: 33 :: rest => .ok (enter (.look true true), rest)
  | 63 :: 60 :: rest => do
    let (name, after) ← groupName (rest.length + 1) [] rest
    return (enterCapture (some name), after)
  | 63 :: _ => .error .invalidGroup
  | _ => .ok (enterCapture none, text)

/-- Closes the innermost group; the text starts behind its parenthesis. -/
def closeGroup (s : Setting) (r : Reading) (text : List Nat) : Except Fault (Reading × List Nat) :=
  match r.outer with
  | [] => .error .unmatchedParenthesis
  | parent :: outer => do
    let body := r.top.body
    let names ← r.top.kind.file r.names
    let closed := { r with top := parent, outer := outer, names := names }
    let (node, looks) := match r.top.kind with
      | .capture index _ => (Node.capture index body, none)
      | .look behind negated => (.look behind negated body, some behind)
      | _ => (body, none)
    quantified s closed ⟨node, looks, r.top.captured⟩ text

/-- A numeric escape whose first digit is not zero: a reference if there are that many captures. -/
def reference? (s : Setting) (text : List Nat) : Option (Nat × List Nat) :=
  let (index, rest) := decimal 0 text
  if 1 ≤ index && index ≤ s.captures then some (index - 1, rest) else none

/-- An escape outside sets, read from behind the backslash. -/
def escaped (s : Setting) (r : Reading) (text : List Nat) : Except Fault (Reading × List Nat) :=
  let term (n : Node) (rest : List Nat) := quantified s r ⟨n, none, r.captured⟩ rest
  match text with
  | [] => .error .escapeAtEnd
  | 98 :: rest => .ok (r.push (.boundary false), rest)
  | 66 :: rest => .ok (r.push (.boundary true), rest)
  | c :: rest =>
    match classLetter? c with
    | some (k, negated) => term (.oneOf false [.named k negated]) rest
    | none =>
      if 49 ≤ c && c ≤ 57 then
        match reference? s text with
        | some (index, after) => term (.again index) after
        | none =>
          if s.unicode then .error .invalidEscape
          else if 56 ≤ c then term (.code c) rest
          else let (value, after) := octal (c - 48) rest; term (.code value) after
      else if s.unicode && (c == 112 || c == 80) then
        match property? rest with
        | some (runs, after) => term (.oneOf false [.having runs (c == 80)]) after
        | none => .error .invalidPropertyName
      else if c == 107 && (s.unicode || s.hasNames) then
        match rest with
        | 60 :: more => do
          let (name, after) ← groupName (more.length + 1) [] more
          quantified s { r with references := name :: r.references }
            ⟨.againNamed name, none, r.captured⟩ after
        | _ => .error .invalidNamedReference
      else do
        let (value, after) ← escape s false text
        term (.code value) after

/-- Reads on by one term, bar, parenthesis or assertion. -/
def advance (s : Setting) (r : Reading) : Nat → List Nat → Except Fault (Reading × List Nat)
  | 124, rest =>
    let top := { r.top with alternatives := concat r.top.terms :: r.top.alternatives, terms := [] }
    .ok ({ r with top := top }, rest)
  | 40, rest => openGroup r rest
  | 41, rest => closeGroup s r rest
  | 42, _ => .error .nothingToRepeat
  | 43, _ => .error .nothingToRepeat
  | 63, _ => .error .nothingToRepeat
  | 94, rest => .ok (r.push .start, rest)
  | 36, rest => .ok (r.push .finish, rest)
  | 46, rest => quantified s r ⟨.any, none, r.captured⟩ rest
  | 91, rest => do
    let (negated, body) := match rest with
      | 94 :: body => (true, body)
      | _ => (false, rest)
    let (members, after) ← setMembers s (body.length + 1) [] body
    quantified s r ⟨.oneOf negated members, none, r.captured⟩ after
  | 92, rest => escaped s r rest
  | 123, rest =>
    if (bounds? rest).isSome then .error .nothingToRepeat
    else if s.unicode then .error .loneBracket
    else quantified s r ⟨.code 123, none, r.captured⟩ rest
  | c, rest =>
    if s.unicode && (c == 125 || c == 93) then .error .loneBracket
    else quantified s r ⟨.code c, none, r.captured⟩ rest

/-- Every step takes at least one code, so as many steps as there are codes suffice. -/
def steps (s : Setting) : Nat → Reading → List Nat → Except Fault Reading
  | _, r, [] => .ok r
  | 0, r, _ => .ok r
  | fuel + 1, r, c :: rest => do
    let (r, rest) ← advance s r c rest
    steps s fuel r rest

end JobWatch.Pattern

namespace JobWatch.Pattern

/-- Reads a pattern. -/
def read (flags : Flags) (source : String) : Except Fault Pattern := do
  let text := if flags.unicode then source.toList.map Char.toNat else Text.units source
  let (captures, hasNames) := census text false 0 false
  let s : Setting := ⟨flags.unicode, captures, hasNames⟩
  let r ← steps s text.length ⟨⟨.whole, [], [], 0⟩, [], 0, [], []⟩ text
  if !r.outer.isEmpty then .error .unterminatedGroup
  else if r.references.any fun name => !(r.names.any (·.1 == name)) then .error .unknownGroupName
  else .ok ⟨r.top.body, flags, r.captured, r.names⟩

end JobWatch.Pattern
