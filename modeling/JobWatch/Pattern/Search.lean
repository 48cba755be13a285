import JobWatch.Pattern.Syntax
import JobWatch.Text.Units
import JobWatch.Text.Blank
import JobWatch.Text.LetterCase

/-!
Finding a pattern in a text. A tree is matched against a text by telling it what has to match
after it; alternatives are tried from left to right, and a round that may be left out is tried
first if the quantifier is greedy. A round that has to be made may take no code, but one beyond the
least number that takes none fails, so there are never more of these than codes.
-/
namespace JobWatch.Pattern

/-- Where a match stands: the codes before the position with the nearest first, those after it,
and what each capture has taken. -/
structure Place where
  past : List Nat
  rest : List Nat
  taken : List (Option (List Nat))

abbrev Next := Place → Option Place

def isLineEnd (c : Nat) : Bool := c == 10 || c == 13 || c == 0x2028 || c == 0x2029

/-- The representative of all codes that count as the same letter. -/
def Flags.letter (f : Flags) (c : Nat) : Nat :=
  if f.ignoreCase then
    if f.unicode then Text.shift Text.foldRuns c else Text.shift Text.upperRuns c
  else c

/-- Every code that counts as the same letter as `c`. -/
def Flags.variants (f : Flags) (c : Nat) : List Nat :=
  if f.ignoreCase then
    let runs := if f.unicode then Text.foldRuns else Text.upperRuns
    let l := Text.shift runs c
    c :: l :: Text.shiftedFrom runs l
  else [c]

/-- ASCII letters, digits and the underscore; with both flags also what folds to one of them. -/
def Flags.isWord (f : Flags) (c : Nat) : Bool :=
  (48 ≤ c && c ≤ 57) || (65 ≤ c && c ≤ 90) || (97 ≤ c && c ≤ 122) || c == 95
    || (f.ignoreCase && f.unicode && (c == 0x17F || c == 0x212A))

def CharClass.has (f : Flags) (c : Nat) : CharClass → Bool
  | digit => 48 ≤ c && c ≤ 57
  | space => Text.isBlankCode c
  | word => f.isWord c

def Member.has (f : Flags) (c : Nat) : Member → Bool
  | range low high => low ≤ c && c ≤ high
  | named k negated => k.has f c != negated
  | having runs negated => (runs.any fun r => r.has c) != negated

def Flags.inSet (f : Flags) (members : List Member) (c : Nat) : Bool :=
  (f.variants c).any fun v => members.any (·.has f v)

/-- Takes one code that passes the test, forwards or backwards. -/
def takeCode (behind : Bool) (test : Nat → Bool) (next : Next) : Next := fun p =>
  if behind then
    match p.past with
    | c :: past => if test c then next { p with past := past, rest := c :: p.rest } else none
    | [] => none
  else
    match p.rest with
    | c :: rest => if test c then next { p with past := c :: p.past, rest := rest } else none
    | [] => none

/-- Takes the given codes one after the other. -/
def takeCodes (f : Flags) (behind : Bool) : List Nat → Next → Next
  | [], next => next
  | c :: cs, next => takeCode behind (fun d => f.letter d == f.letter c) (takeCodes f behind cs next)

def atWordEdge (f : Flags) (p : Place) : Bool :=
  p.past.head?.any f.isWord != p.rest.head?.any f.isWord

/-- Forgets the captures with indices from `first` on and below `stop`. -/
def forget (first stop : Nat) (taken : List (Option (List Nat))) : List (Option (List Nat)) :=
  taken.mapIdx fun i t => if first ≤ i ∧ i < stop then none else t

/-- `body` exactly so many times. Each time it forgets the captures with indices from `first` on and
below `stop`. -/
def times (body : Next → Next) (first stop : Nat) (next : Next) : Nat → Next
  | 0 => next
  | n + 1 => fun p =>
    body (times body first stop next n) { p with taken := forget first stop p.taken }

/-- `body` as long as it takes codes, at most `most` times. There are at most so many codes as the
first number says, and so no more rounds that take some. -/
def repeated (body : Next → Next) (greedy : Bool) (first stop : Nat) (next : Next) :
    Nat → Option Nat → Next
  | 0, _ => next
  | codes + 1, most => fun p =>
    if most = some 0 then next p
    else
      let again : Next := fun q =>
        if q.rest.length = p.rest.length then none
        else repeated body greedy first stop next codes (most.map (· - 1)) q
      let round : Unit → Option Place := fun _ =>
        body again { p with taken := forget first stop p.taken }
      if greedy then (round ()).or (next p) else (next p).or (round ())

/-- What a capture took between two places, in text order. -/
def between (behind : Bool) (before after : Place) : List Nat :=
  if behind then after.rest.take (after.rest.length - before.rest.length)
  else before.rest.take (before.rest.length - after.rest.length)

/-- Matches a tree at a place and goes on with `next`. `names` gives the indices of named
captures, `behind` is set inside a lookbehind, where trees are matched from right to left. -/
def Node.run (f : Flags) (names : List (List Nat × Nat)) (behind : Bool) : Node → Next → Next
  | .empty, next => next
  | .code c, next => takeCode behind (fun d => f.letter d == f.letter c) next
  | .any, next => takeCode behind (fun d => f.dotAll || !isLineEnd d) next
  | .oneOf negated members, next => takeCode behind (fun d => f.inSet members d != negated) next
  | .seq a b, next =>
    if behind then b.run f names behind (a.run f names behind next)
    else a.run f names behind (b.run f names behind next)
  | .alt a b, next => fun p => (a.run f names behind next p).or (b.run f names behind next p)
  | .capture i body, next => fun p =>
    body.run f names behind
      (fun q => next { q with taken := q.taken.set i (some (between behind p q)) }) p
  | .again i, next => fun p =>
    match p.taken[i]?.join with
    | some codes => takeCodes f behind (if behind then codes.reverse else codes) next p
    | none => next p
  | .againNamed name, next => fun p =>
    match ((names.find? (·.1 == name)).bind fun e => p.taken[e.2]?).join with
    | some codes => takeCodes f behind (if behind then codes.reverse else codes) next p
    | none => next p
  | .start, next => fun p =>
    if p.past.isEmpty || (f.multiline && p.past.head?.any isLineEnd) then next p else none
  | .finish, next => fun p =>
    if p.rest.isEmpty || (f.multiline && p.rest.head?.any isLineEnd) then next p else none
  | .boundary negated, next => fun p => if atWordEdge f p != negated then next p else none
  | .look back negated body, next => fun p =>
    match body.run f names back some p with
    | some q => if negated then none else next { p with taken := q.taken }
    | none => if negated then next p else none
  | .rounds least most greedy first stop body, next => fun p =>
    times (body.run f names behind) first stop
      (repeated (body.run f names behind) greedy first stop next (p.past.length + p.rest.length)
        (most.map (· - least))) least p

/-- A match that starts at the place. -/
def matchesAt (p : Pattern) (past rest : List Nat) : Bool :=
  (p.root.run p.flags p.names false some ⟨past, rest, List.replicate p.captures none⟩).isSome

/-- A match that starts at the place or later. -/
def matchesFrom (p : Pattern) : List Nat → List Nat → Bool
  | past, [] => p.matchesAt past []
  | past, c :: rest => p.matchesAt past (c :: rest) || p.matchesFrom (c :: past) rest

end JobWatch.Pattern

namespace JobWatch.Pattern

/-- The pattern occurs in the text; with the sticky flag, at its beginning. -/
def occursIn (p : Pattern) (text : String) : Bool :=
  let codes := if p.flags.unicode then text.toList.map Char.toNat else Text.units text
  if p.flags.sticky then p.matchesAt [] codes else p.matchesFrom [] codes

end JobWatch.Pattern
