import JobWatch.Number.Numeral
import JobWatch.Number.Shortest
import JobWatch.Text.Search

/-!
The values that nodes stand for, and the types of plain text: `null`, flags and numbers as the
core schema of version 1.2 knows them, and the older, wider forms of version 1.1.
-/
namespace JobWatch.Yaml

inductive Value where
  | null
  | flag (b : Bool)
  | number (x : Binary64)
  | text (s : String)
  | list (items : List Value)
  /-- Later fields win over earlier ones of the same name. -/
  | record (fields : List (String × Value))
  | set
  | orderedMap
  | date
  | bytes
deriving BEq, Repr

namespace Value

def lookup (name : String) : List (String × Value) → Option Value
  | [] => none
  | (key, v) :: rest => (lookup name rest).or (if key = name then some v else none)

/-- The text under which a value is a field's name. Collections name no field that could be
asked for. -/
def fieldName? : Value → Option String
  | null => some ""
  | flag b => some (if b then "true" else "false")
  | number x => some x.text
  | text s => some s
  | _ => none

/-- Two keys that may not stand in the same mapping. -/
def sameKey : Value → Value → Bool
  | null, null => true
  | flag a, flag b => a == b
  | number x, number y => Binary64.le x y && Binary64.le y x
  | text s, text t => s == t
  | _, _ => false

end Value

namespace Plain

def isOneOf (words : List String) (s : List Char) : Bool := words.any fun w => w.toList == s

def dropSign : List Char → List Char
  | '-' :: rest => rest
  | '+' :: rest => rest
  | s => s

def isNull (s : List Char) : Bool := isOneOf ["", "~", "null", "Null", "NULL"] s

def isInfinite (s : List Char) : Bool := isOneOf [".inf", ".Inf", ".INF"] (dropSign s)

def isNotANumber (s : List Char) : Bool := isOneOf [".nan", ".NaN", ".NAN"] s

def allDigits (s : List Char) : Bool := !s.isEmpty && s.all Char.isDigit

/-- The exponent of a number, or nothing at all. -/
def isExponent : List Char → Bool
  | [] => true
  | e :: rest => (e == 'e' || e == 'E') && allDigits (dropSign rest)

/-- Digits with a point or an exponent or both. -/
def isFraction (s : List Char) : Bool :=
  let s := dropSign s
  let rest := s.dropWhile Char.isDigit
  let whole := s.length - rest.length
  match rest with
  | '.' :: body =>
    let tail := body.dropWhile Char.isDigit
    (whole != 0 || tail.length < body.length) && isExponent tail
  | _ => whole != 0 && !rest.isEmpty && isExponent rest

def infinity (s : List Char) : Value := .number (.infinite (s.head? == some '-'))

def numeral (s : List Char) : Value := .number (Numeral.valueOf s)

/-- The types whose text is not taken as it stands. -/
inductive Kind where
  | null
  | bool
  | int
  | float
  | timestamp
deriving DecidableEq, Repr

/-- A text as a value of one type of the core schema. -/
def core? (kind : Kind) (s : List Char) : Option Value :=
  match kind with
  | .null => if isNull s then some .null else none
  | .bool =>
    if isOneOf ["true", "True", "TRUE"] s then some (.flag true)
    else if isOneOf ["false", "False", "FALSE"] s then some (.flag false)
    else none
  | .int =>
    let based := match s with
      | '0' :: 'o' :: d :: ds => (d :: ds).all fun c => '0' ≤ c && c ≤ '7'
      | '0' :: 'x' :: d :: ds => (d :: ds).all fun c => (Numeral.digit? 16 c).isSome
      | _ => false
    if based || allDigits (dropSign s) then some (numeral s) else none
  | .float =>
    if isInfinite s then some (infinity s)
    else if isNotANumber s then some (.number .nan)
    else if isFraction s then some (numeral s)
    else none
  | .timestamp => none

/-! ### Version 1.1 -/

def isDigitOrLow (c : Char) : Bool := c.isDigit || c == '_'

def startsWithDigit (s : List Char) : Bool := (s.head?.map Char.isDigit).getD false

def withoutLow (s : List Char) : List Char := s.filter (· != '_')

/-- The parts of a number in base sixty behind the first: one or two digits, the first of two
below six. -/
def isSixtieth : List Char → Bool
  | [a] => a.isDigit
  | [a, b] => '0' ≤ a && a ≤ '5' && b.isDigit
  | _ => false

def isSexagesimal (s : List Char) : Bool :=
  match Text.split ':' (dropSign s) with
  | first :: second :: rest =>
    startsWithDigit first && first.all isDigitOrLow && (second :: rest).all isSixtieth
  | _ => false

def decimalValue (s : List Char) : Nat := s.foldl (fun n c => n * 10 + (c.toNat - 48)) 0

/-- A number in base sixty with decimal places behind its last part. -/
def sexagesimal (s places : List Char) : Value :=
  let parts := Text.split ':' (withoutLow (dropSign s))
  let whole := parts.foldl (fun n part => n * 60 + decimalValue part) 0
  let digits := withoutLow places
  .number (Binary64.ofDecimal (s.head? == some '-')
    (whole * Nat.pow 10 digits.length + decimalValue digits) (-digits.length))

/-- A number in another base behind its mark. -/
def inBase (base : Nat) (negative : Bool) (digits : List Char) : Value :=
  let n := digits.foldl (fun n c => n * base + (Numeral.digit? base c).getD 0) 0
  .number (Binary64.ofUnits negative (n * Binary64.one) 1)

def isLegacyFraction (s : List Char) : Bool :=
  let s := dropSign s
  let rest := if startsWithDigit s then s.dropWhile isDigitOrLow else s
  match rest with
  | '.' :: body =>
    let tail := body.dropWhile isDigitOrLow
    isExponent tail
  | _ => !rest.isEmpty && isExponent rest

/-- Groups of digits and what separates them, as a date is written. -/
def digitGroup (least most : Nat) (s : List Char) : Option (List Char) :=
  let n := (s.takeWhile Char.isDigit).length
  if least ≤ n && n ≤ most then some (s.drop n) else none

def after (c : Char) : List Char → Option (List Char)
  | d :: rest => if c = d then some rest else none
  | [] => none

/-- A time zone, which may be left out. -/
def isZone (s : List Char) : Bool :=
  match s.dropWhile fun c => c == ' ' || c == '\t' with
  | [] => s.isEmpty
  | ['Z'] => true
  | sign :: rest =>
    (sign == '-' || sign == '+') &&
      (match rest with
        | a :: b :: tail => (if b.isDigit then ('0' ≤ a && a ≤ '2') && isMinutes tail
            else a.isDigit && isMinutes (b :: tail))
        | [a] => a.isDigit
        | [] => false)
where
  isMinutes : List Char → Bool
    | [] => true
    | [':', a, b] => a.isDigit && b.isDigit
    | _ => false

def isTime (s : List Char) : Bool :=
  let time? := do
    let s ← (digitGroup 1 2 s).bind (after ':')
    let s ← (digitGroup 1 2 s).bind (after ':')
    let s ← digitGroup 1 2 s
    match s with
    | '.' :: body =>
      let tail := body.dropWhile Char.isDigit
      if tail.length = body.length then none else some tail
    | _ => some s
  (time?.map isZone).getD false

/-- A date, alone or followed by a time of day. -/
def isTimestamp (s : List Char) : Bool :=
  let date? := do
    let s ← (digitGroup 4 4 s).bind (after '-')
    let s ← (digitGroup 1 2 s).bind (after '-')
    digitGroup 1 2 s
  match date? with
  | none => false
  | some [] => true
  | some (c :: rest) =>
    if c = 't' ∨ c = 'T' then isTime rest
    else (c == ' ' || c == '\t') && isTime (rest.dropWhile fun c => c == ' ' || c == '\t')

/-- A text as a value of one type of version 1.1. -/
def legacy? (kind : Kind) (s : List Char) : Option Value :=
  let body := dropSign s
  let negative := s.head? == some '-'
  match kind with
  | .null => if isNull s then some .null else none
  | .bool =>
    if isOneOf ["Y", "y", "Yes", "yes", "YES", "True", "true", "TRUE", "On", "on", "ON"] s then
      some (.flag true)
    else if isOneOf ["N", "n", "No", "no", "NO", "False", "false", "FALSE", "Off", "off", "OFF"] s
      then some (.flag false)
    else none
  | .int =>
    match body with
    | '0' :: 'b' :: d :: ds =>
      if (d :: ds).all fun c => c == '0' || c == '1' || c == '_' then
        some (inBase 2 negative (withoutLow (d :: ds)))
      else none
    | '0' :: 'x' :: d :: ds =>
      if (d :: ds).all fun c => (Numeral.digit? 16 c).isSome || c == '_' then
        some (inBase 16 negative (withoutLow (d :: ds)))
      else none
    | _ =>
      if startsWithDigit body && body.all isDigitOrLow then
        let digits := withoutLow body
        let octal := digits.head? == some '0' && digits.all fun c => '0' ≤ c && c ≤ '7'
        some (inBase (if octal then 8 else 10) negative digits)
      else if isSexagesimal s then some (sexagesimal s [])
      else none
  | .float =>
    if isInfinite s then some (infinity s)
    else if isNotANumber s then some (.number .nan)
    else if isLegacyFraction s then some (numeral (withoutLow s))
    else match Text.splitFirst '.' s with
      | some (whole, part) =>
        if isSexagesimal whole && part.all isDigitOrLow then some (sexagesimal whole part)
        else none
      | none => none
  | .timestamp => if isTimestamp s then some .date else none

end Plain

end JobWatch.Yaml
