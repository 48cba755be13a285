/-!
Numbers of the IEEE binary64 format, held exactly.

Every finite value of the format is a whole number of units of `2^-1074`, so a finite value is
a sign and a count of units. Each operation is the exact result rounded once, to nearest with
ties to even. Nothing here is claimed about the machine type `Float`.
-/
namespace JobWatch

/-- A number of the format. `finite negative units` stands for `± units * 2^-1074`. -/
inductive Binary64 where
  | nan
  | infinite (negative : Bool)
  | finite (negative : Bool) (units : Nat)
deriving DecidableEq, Repr

namespace Binary64

/-- One, counted in units of the least positive value. -/
def one : Nat := Nat.pow 2 1074

/-- The count of units at which values become infinite. -/
def limit : Nat := Nat.pow 2 2098

/-- The multiple of 53 significant bits nearest to `num / den`, ties to even. Below `2^53`
every whole number of units is such a multiple. -/
def nearest (num den : Nat) : Nat :=
  let step := Nat.pow 2 ((num / den).log2 + 1 - 53)
  let d := den * step
  let m := num / d
  let r := num % d
  let up := d < 2 * r || (2 * r == d && m % 2 == 1)
  (if up then m + 1 else m) * step

/-- The value nearest to `± num / den` units. -/
def ofUnits (negative : Bool) (num den : Nat) : Binary64 :=
  let u := nearest num den
  if u < limit then .finite negative u else .infinite negative

def zero : Binary64 := .finite false 0

def ofNat (n : Nat) : Binary64 := ofUnits false (n * one) 1

instance (n : Nat) : OfNat Binary64 n := ⟨ofNat n⟩

/-- The value nearest to `± digits * 10^exponent`. Exponents far outside the range of the
format are answered without computing the power. -/
def ofDecimal (negative : Bool) (digits : Nat) (exponent : Int) : Binary64 :=
  if digits = 0 then .finite negative 0
  else if 400 < exponent then .infinite negative
  else if (digits.log2 : Int) + 1 + 3 * exponent < -1100 then .finite negative 0
  else if 0 ≤ exponent then ofUnits negative (digits * Nat.pow 10 exponent.toNat * one) 1
  else ofUnits negative (digits * one) (Nat.pow 10 (-exponent).toNat)

def isFinite : Binary64 → Bool
  | .finite _ _ => true
  | _ => false

def isNaN (x : Binary64) : Bool := x == .nan

/-- A finite value as a signed count of units. -/
def signed (negative : Bool) (units : Nat) : Int := if negative then -(units : Int) else units

def neg : Binary64 → Binary64
  | .nan => .nan
  | .infinite s => .infinite (!s)
  | .finite s u => .finite (!s) u

/-- An exact sum of zero is positive unless both terms are negative. -/
def add : Binary64 → Binary64 → Binary64
  | .nan, _ => .nan
  | _, .nan => .nan
  | .infinite a, .infinite b => if a = b then .infinite a else .nan
  | .infinite a, .finite _ _ => .infinite a
  | .finite _ _, .infinite b => .infinite b
  | .finite a m, .finite b n =>
    let s := signed a m + signed b n
    if s = 0 then .finite (a && b) 0 else ofUnits (decide (s < 0)) s.natAbs 1

def mul : Binary64 → Binary64 → Binary64
  | .nan, _ => .nan
  | _, .nan => .nan
  | .infinite a, .infinite b => .infinite (a != b)
  | .infinite a, .finite b n => if n = 0 then .nan else .infinite (a != b)
  | .finite a m, .infinite b => if m = 0 then .nan else .infinite (a != b)
  | .finite a m, .finite b n => ofUnits (a != b) (m * n) one

instance : Add Binary64 := ⟨add⟩

instance : Mul Binary64 := ⟨mul⟩

/-- Order as numbers: false as soon as one side is no number, and the two zeros are equal. -/
def lt : Binary64 → Binary64 → Bool
  | .nan, _ => false
  | _, .nan => false
  | .infinite a, .infinite b => a && !b
  | .infinite a, .finite _ _ => a
  | .finite _ _, .infinite b => !b
  | .finite a m, .finite b n => decide (signed a m < signed b n)

def le : Binary64 → Binary64 → Bool
  | .nan, _ => false
  | _, .nan => false
  | .infinite a, .infinite b => a || !b
  | .infinite a, .finite _ _ => a
  | .finite _ _, .infinite b => !b
  | .finite a m, .finite b n => decide (signed a m ≤ signed b n)

/-- Greater than zero. -/
def isPositive : Binary64 → Bool
  | .nan => false
  | .infinite s => !s
  | .finite s u => !s && 0 < u

/-- Less than zero; the negative zero is not. -/
def isNegative : Binary64 → Bool
  | .nan => false
  | .infinite s => s
  | .finite s u => s && 0 < u

/-- Neither zero nor NaN: the values that count as given where a number is optional. -/
def isTruthy : Binary64 → Bool
  | .nan => false
  | .infinite _ => true
  | .finite _ u => 0 < u

/-- At most the whole number `n`, compared exactly. -/
def atMost (x : Binary64) (n : Int) : Bool :=
  match x with
  | .nan => false
  | .infinite s => s
  | .finite s u => decide (signed s u ≤ n * (one : Int))

/-- The whole part, toward zero; zero for what is not finite. -/
def truncate : Binary64 → Int
  | .finite s u => signed s (u / one)
  | _ => 0

/-- The natural number that a value is, if it is one. -/
def toNat? : Binary64 → Option Nat
  | .finite s u => if u % one = 0 ∧ (s = false ∨ u = 0) then some (u / one) else none
  | _ => none

end Binary64

end JobWatch
