import JobWatch.Number.Binary64

/-!
The fewest decimal digits that read back to a value. Candidates on coarser grids come first; a
candidate counts only if reading it gives the value again, so what is chosen reads back by
construction. If no grid of up to seventeen digits has one, the exact decimal value is taken.
-/
namespace JobWatch

/-- Stands for `digits * 10^exponent`. -/
structure Decimal where
  digits : Nat
  exponent : Int
deriving DecidableEq, Repr

namespace Decimal

/-- Drops at most `fuel` trailing zeros of the digits into the exponent. -/
def strip : Nat → Decimal → Decimal
  | 0, d => d
  | fuel + 1, d =>
    if d.digits ≠ 0 ∧ d.digits % 10 = 0 then strip fuel ⟨d.digits / 10, d.exponent + 1⟩ else d

def read (negative : Bool) (d : Decimal) : Binary64 :=
  Binary64.ofDecimal negative d.digits d.exponent

/-- The number of decimal digits before the point of `units`, or minus the number of zeros
behind it. -/
def magnitude (units : Nat) : Int :=
  ((Nat.toDigits 10 (units * Nat.pow 10 400 / Binary64.one)).length : Int) - 400

/-- The neighbours of `units` on the grid of `count` leading digits that read back, the closer
one first and of two equally close ones the even. -/
def onGrid (units : Nat) (scale : Int) (count : Nat) : Option Decimal :=
  let e := scale - count
  let num := if 0 ≤ e then units else units * Nat.pow 10 (-e).toNat
  let den := if 0 ≤ e then Binary64.one * Nat.pow 10 e.toNat else Binary64.one
  let m := num / den
  let low : Decimal := ⟨m, e⟩
  let high : Decimal := ⟨m + 1, e⟩
  let lowFirst := 2 * (num % den) < den || (2 * (num % den) == den && m % 2 == 0)
  let candidates := if lowFirst then [low, high] else [high, low]
  candidates.find? fun d => d.read false == .finite false units

/-- The exact value: a unit is `5^1074 * 10^-1074`. -/
def exact (units : Nat) : Decimal := ⟨units * Nat.pow 5 1074, -1074⟩

/-- The decimal that stands for a count of units, without trailing zeros. -/
def ofUnits (units : Nat) : Decimal :=
  if units = 0 then ⟨0, 0⟩
  else
    let scale := magnitude units
    let found := (List.range 17).findSome? fun i => onGrid units scale (i + 1)
    strip 1500 (found.getD (exact units))

end Decimal

/-- How digits are laid out: positionally while the leading digit's exponent lies between the
two bounds, otherwise with a signed exponent. -/
structure NumberLayout where
  plainFrom : Int
  plainBelow : Int

namespace NumberLayout

def zeros (n : Nat) : List Char := List.replicate n '0'

/-- Lays out `digits * 10^exponent` for non-empty digits. -/
def place (l : NumberLayout) (digits : List Char) (exponent : Int) : List Char :=
  let point := exponent + digits.length
  if l.plainFrom ≤ point - 1 ∧ point - 1 < l.plainBelow then
    if 0 ≤ exponent then digits ++ zeros exponent.toNat
    else if 0 < point then digits.take point.toNat ++ '.' :: digits.drop point.toNat
    else '0' :: '.' :: (zeros (-point).toNat ++ digits)
  else
    let e := point - 1
    let power := (if e < 0 then '-' else '+') :: Nat.toDigits 10 e.natAbs
    match digits with
    | [d] => d :: 'e' :: power
    | d :: rest => d :: '.' :: (rest ++ 'e' :: power)
    | [] => []

end NumberLayout

namespace Binary64

/-- Positional from `0.000001` up to twenty-one digits. -/
def layout : NumberLayout := ⟨-6, 21⟩

/-- Digits of a magnitude. Whole numbers up to `2^53` are written in full. -/
def magnitudeText (units : Nat) : List Char :=
  if units % one = 0 ∧ units / one ≤ Nat.pow 2 53 then Nat.toDigits 10 (units / one)
  else
    let d := Decimal.ofUnits units
    layout.place (Nat.toDigits 10 d.digits) d.exponent

/-- Both zeros are written `0`. -/
def text : Binary64 → String
  | .nan => "NaN"
  | .infinite s => if s then "-Infinity" else "Infinity"
  | .finite s u =>
    String.ofList (if s ∧ u ≠ 0 then '-' :: magnitudeText u else magnitudeText u)

end Binary64

end JobWatch
