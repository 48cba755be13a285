import JobWatch.Text.Search
import JobWatch.Text.Units

/-!
A text as it is shown in a message about it: in quotes that it does not hold itself, as far as there
are some, with control characters written out, and cut off when it is long.
-/
namespace JobWatch.Text

/-- The quotes for a text. -/
def quoteFor (s : List Char) : Char :=
  if !s.contains '\'' then '\''
  else if !s.contains '"' then '"'
  else if !s.contains '\x60' && !occursIn ['$', '\x7b'] s then '\x60'
  else '\''

def upperHexDigit (n : Nat) : Char := Char.ofNat (if n < 10 then 48 + n else 55 + n)

def escapedIn (quote c : Char) : List Char :=
  if c = '\\' ∨ c = quote then ['\\', c]
  else if c = '\n' then ['\\', 'n']
  else if c = '\t' then ['\\', 't']
  else if c = '\r' then ['\\', 'r']
  else if c = '\x08' then ['\\', 'b']
  else if c = '\x0c' then ['\\', 'f']
  else if c.toNat < 0x20 ∨ 0x7F ≤ c.toNat ∧ c.toNat < 0xA0 then
    ['\\', 'x', upperHexDigit (c.toNat / 16), upperHexDigit (c.toNat % 16)]
  else [c]

def quoted (s : List Char) : List Char :=
  let quote := quoteFor s
  quote :: s.flatMap (escapedIn quote) ++ [quote]

/-- As much of a text as there is room for, counted in units. -/
def cut : Nat → List Char → List Char
  | _, [] => []
  | room, c :: rest =>
    let width := (charUnits c).length
    if width ≤ room then c :: cut (room - width) rest else []

/-- A text as it is shown in a message about it. -/
def shown (s : String) : String :=
  let whole := quoted s.toList
  if (whole.flatMap charUnits).length ≤ 128 then String.ofList whole
  else String.ofList (cut 128 whole) ++ "..."

end JobWatch.Text
