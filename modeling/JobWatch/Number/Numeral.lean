import JobWatch.Number.Binary64
import JobWatch.Text.Blank

/-!
Numbers read from text: decimals with optional point and exponent, `Infinity`, and unsigned
whole numbers in bases two, eight and sixteen. Blanks around the text do not count, and blank
text is zero. Everything else is no number.
-/
namespace JobWatch.Numeral

def digit? (base : Nat) (c : Char) : Option Nat :=
  let d :=
    if '0' ≤ c ∧ c ≤ '9' then c.toNat - 48
    else if 'a' ≤ c ∧ c ≤ 'f' then c.toNat - 87
    else if 'A' ≤ c ∧ c ≤ 'F' then c.toNat - 55
    else base
  if d < base then some d else none

/-- The leading digits of a text: their value, their number, and what follows. -/
def digits (base : Nat) : List Char → Nat → Nat → Nat × Nat × List Char
  | [], value, count => (value, count, [])
  | c :: rest, value, count =>
    match digit? base c with
    | some d => digits base rest (value * base + d) (count + 1)
    | none => (value, count, c :: rest)

/-- A signed decimal exponent that fills the rest of the text, or no exponent at all. -/
def exponent? : List Char → Option Int
  | [] => some 0
  | e :: rest =>
    if e = 'e' ∨ e = 'E' then
      let (negative, body) := match rest with
        | '-' :: body => (true, body)
        | '+' :: body => (false, body)
        | body => (false, body)
      match digits 10 body 0 0 with
      | (value, count, []) =>
        if count = 0 then none else some (if negative then -(value : Int) else value)
      | _ => none
    else none

/-- Digits with an optional point, at least one digit on either side of it. -/
def unsignedDecimal (negative : Bool) (s : List Char) : Binary64 :=
  let (whole, wholeCount, rest) := digits 10 s 0 0
  let (value, count, places, tail) := match rest with
    | '.' :: body =>
      let (v, n, t) := digits 10 body whole 0
      (v, wholeCount + n, n, t)
    | _ => (whole, wholeCount, 0, rest)
  if count = 0 then .nan
  else match exponent? tail with
    | some e => Binary64.ofDecimal negative value (e - places)
    | none => .nan

def signless (negative : Bool) (s : List Char) : Binary64 :=
  if s = "Infinity".toList then .infinite negative else unsignedDecimal negative s

/-- A whole number in another base, all of the text. -/
def inBase (base : Nat) (s : List Char) : Binary64 :=
  match digits base s 0 0 with
  | (value, count, []) => if count = 0 then .nan else Binary64.ofNat value
  | _ => .nan

def valueOf : List Char → Binary64
  | [] => .zero
  | '0' :: 'x' :: rest | '0' :: 'X' :: rest => inBase 16 rest
  | '0' :: 'o' :: rest | '0' :: 'O' :: rest => inBase 8 rest
  | '0' :: 'b' :: rest | '0' :: 'B' :: rest => inBase 2 rest
  | '-' :: rest => signless true rest
  | '+' :: rest => signless false rest
  | s => signless false s

/-- The number that a text stands for, `nan` if none. -/
def value (s : String) : Binary64 := valueOf (Text.trim s.toList)

end JobWatch.Numeral
