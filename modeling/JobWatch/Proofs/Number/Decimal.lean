import JobWatch.Number.Shortest
import JobWatch.Proofs.Number.Order

/-!
# Decimals and the numbers they stand for

A decimal stands for the same number when zeros move from its digits into its exponent, so the
decimal that is chosen for a number of the format stands for that number. That no decimal with
fewer digits does is not stated.
-/

namespace JobWatch

namespace Binary64

/-! ## Rounding -/

theorem limit_pos : 0 < limit := by
  unfold limit
  apply pow_two_pos

theorem nearest_mul_mul {k : Nat} (pos : 0 < k) (num den : Nat) :
    nearest (num * k) (den * k) = nearest num den := by
  have quotient : num * k / (den * k) = num / den := Nat.mul_div_mul_right num den pos
  simp only [nearest, quotient]
  generalize Nat.pow 2 ((num / den).log2 + 1 - 53) = step
  have scaled : den * k * step = den * step * k := Nat.mul_right_comm den k step
  have twice : 2 * (num % (den * step) * k) = 2 * (num % (den * step)) * k := by
    rw [Nat.mul_assoc]
  have tie : (2 * (num % (den * step)) * k == den * step * k) =
      (2 * (num % (den * step)) == den * step) := by
    rw [Bool.eq_iff_iff, beq_iff_eq, beq_iff_eq, Nat.mul_left_inj (Nat.ne_of_gt pos)]
  rw [scaled, Nat.mul_div_mul_right _ _ pos, Nat.mul_mod_mul_right, twice, tie]
  simp only [Nat.mul_lt_mul_right pos]

/-- Less than half of a unit rounds to zero. -/
theorem nearest_of_lt_half {num den : Nat} (small : 2 * num < den) : nearest num den = 0 := by
  have below : num < den := by omega
  have none : ¬ den < 2 * num := by omega
  simp [nearest, Nat.div_eq_of_lt below, Nat.mod_eq_of_lt below, none]

/-- A whole number of units rounds to zero only if it is zero. -/
theorem nearest_eq_zero_iff {num : Nat} : nearest num 1 = 0 ↔ num = 0 := by
  constructor
  · intro none
    refine Nat.eq_zero_of_not_pos fun pos => ?_
    exact Nat.ne_of_gt (nearest_pos pos) none
  · rintro rfl
    exact nearest_of_lt_half (by decide)

/-- Rounding keeps a number above the powers of two that it is above. -/
theorem pow_le_nearest {num k : Nat} (le : Nat.pow 2 k ≤ num) : Nat.pow 2 k ≤ nearest num 1 := by
  have positive : num ≠ 0 := Nat.ne_of_gt (Nat.lt_of_lt_of_le (pow_two_pos k) le)
  have size : k ≤ num.log2 := (Nat.le_log2 positive).mpr le
  have high : 2 ^ num.log2 ≤ num := Nat.log2_self_le positive
  have coarse : num.log2 + 1 - 53 ≤ num.log2 := by omega
  -- the step divides the leading power of two, so cutting off below the step stays above it
  have divides : Nat.pow 2 (num.log2 + 1 - 53) ∣ 2 ^ num.log2 := Nat.pow_dvd_pow 2 coarse
  have cut : 2 ^ num.log2 ≤ num / Nat.pow 2 (num.log2 + 1 - 53) * Nat.pow 2 (num.log2 + 1 - 53) := by
    obtain ⟨q, hq⟩ := divides
    rw [hq, Nat.mul_comm] at high ⊢
    exact Nat.mul_le_mul_right _ ((Nat.le_div_iff_mul_le (pow_two_pos _)).mpr high)
  have grow : num / Nat.pow 2 (num.log2 + 1 - 53) * Nat.pow 2 (num.log2 + 1 - 53) ≤ nearest num 1 := by
    simp only [nearest, Nat.div_one, Nat.one_mul]
    refine Nat.mul_le_mul_right _ ?_
    split <;> omega
  calc
    2 ^ k ≤ 2 ^ num.log2 := Nat.pow_le_pow_right (by decide) size
    _ ≤ _ := cut
    _ ≤ _ := grow

theorem ofUnits_mul_mul (s : Bool) {k : Nat} (pos : 0 < k) (num den : Nat) :
    ofUnits s (num * k) (den * k) = ofUnits s num den := by
  rw [ofUnits, ofUnits, nearest_mul_mul pos]

theorem ofUnits_of_lt_half (s : Bool) {num den : Nat} (small : 2 * num < den) :
    ofUnits s num den = .finite s 0 := by
  rw [ofUnits, nearest_of_lt_half small]
  exact if_pos limit_pos

theorem ofUnits_of_limit_le (s : Bool) {num : Nat} (large : limit ≤ num) :
    ofUnits s num 1 = .infinite s := by
  have still : limit ≤ nearest num 1 := by
    unfold limit at large ⊢
    apply pow_le_nearest large
  rw [ofUnits]
  exact if_neg (Nat.not_lt.mpr still)

theorem ofUnits_true (num den : Nat) : ofUnits true num den = (ofUnits false num den).neg := by
  rw [ofUnits, ofUnits]
  by_cases finite : nearest num den < limit
  · simp only [if_pos finite]
    rfl
  · simp only [if_neg finite]
    rfl

/-! ## Moving zeros -/

theorem pow_two_add (m n : Nat) : Nat.pow 2 (m + n) = Nat.pow 2 m * Nat.pow 2 n :=
  Nat.pow_add 2 m n

theorem pow_two_le_pow_ten {m n : Nat} (le : m ≤ 3 * n) : Nat.pow 2 m ≤ Nat.pow 10 n :=
  calc
    2 ^ m ≤ 2 ^ (3 * n) := Nat.pow_le_pow_right (by decide) le
    _ = (2 ^ 3) ^ n := Nat.pow_mul 2 3 n
    _ ≤ 10 ^ n := Nat.pow_le_pow_left (by decide) n

theorem pow_two_le_mul {digits m n : Nat} (pos : 0 < digits) (le : m ≤ 3 * n) (k : Nat) :
    Nat.pow 2 (m + k) ≤ digits * Nat.pow 10 n * Nat.pow 2 k := by
  rw [pow_two_add]
  refine Nat.mul_le_mul_right _ ?_
  exact Nat.le_trans (pow_two_le_pow_ten le) (Nat.le_mul_of_pos_left _ pos)

/-- Digits so far before the point that the number is infinite. -/
theorem limit_le_of_far {digits n : Nat} (pos : 0 < digits) (far : 342 ≤ n) :
    limit ≤ digits * Nat.pow 10 n * one := by
  unfold limit one
  rw [show 2098 = 1024 + 1074 from rfl]
  generalize 1074 = k
  exact pow_two_le_mul (m := 1024) pos (by omega) k

theorem lt_half_pow_ten {digits k n : Nat} (few : digits.log2 + 2 + k ≤ 3 * n) :
    2 * (digits * Nat.pow 2 k) < Nat.pow 10 n := by
  have below : digits < Nat.pow 2 (digits.log2 + 1) := Nat.lt_log2_self
  have double : Nat.pow 2 1 = 2 := rfl
  calc
    2 * (digits * Nat.pow 2 k) < 2 * (Nat.pow 2 (digits.log2 + 1) * Nat.pow 2 k) :=
      Nat.mul_lt_mul_of_pos_left (Nat.mul_lt_mul_of_pos_right below (pow_two_pos k)) (by decide)
    _ = Nat.pow 2 (1 + (digits.log2 + 1 + k)) := by rw [pow_two_add 1, pow_two_add _ k, double]
    _ ≤ Nat.pow 10 n := pow_two_le_pow_ten (by omega)

/-- Digits so few and so far behind the point that the number rounds to zero. -/
theorem lt_half_of_few {digits n : Nat} (few : digits.log2 + 1100 ≤ 3 * n) :
    2 * (digits * one) < Nat.pow 10 n := by
  unfold one
  apply lt_half_pow_ten
  omega

/-- The answer for exponents that are too large is the one that the power would give. -/
theorem ofDecimal_of_nonneg (s : Bool) {digits : Nat} (pos : 0 < digits) (n : Nat) :
    ofDecimal s digits (n : Int) = ofUnits s (digits * Nat.pow 10 n * one) 1 := by
  rw [ofDecimal, if_neg (Nat.ne_of_gt pos)]
  by_cases far : (400 : Int) < n
  · rw [if_pos far, ofUnits_of_limit_le s (limit_le_of_far pos (by omega))]
  · rw [if_neg far, if_neg (by omega), if_pos (Int.natCast_nonneg n), Int.toNat_natCast]

/-- The answer for exponents that are too small is the one that the power would give. -/
theorem ofDecimal_of_neg (s : Bool) {digits : Nat} (pos : 0 < digits) (n : Nat) :
    ofDecimal s digits (-(n : Int)) = ofUnits s (digits * one) (Nat.pow 10 n) := by
  cases n with
  | zero =>
    have whole : digits * Nat.pow 10 0 = digits := Nat.mul_one digits
    have read := ofDecimal_of_nonneg s pos 0
    rw [whole] at read
    exact read
  | succ n =>
    rw [ofDecimal, if_neg (Nat.ne_of_gt pos), if_neg (by omega)]
    by_cases few : (digits.log2 : Int) + 1 + 3 * -((n + 1 : Nat) : Int) < -1100
    · rw [if_pos few, ofUnits_of_lt_half s (lt_half_of_few (by omega))]
    · rw [if_neg few, if_neg (by omega), Int.neg_neg, Int.toNat_natCast]

theorem ofDecimal_mul_ten (s : Bool) (digits : Nat) (exponent : Int) :
    ofDecimal s (digits * 10) exponent = ofDecimal s digits (exponent + 1) := by
  rcases Nat.eq_zero_or_pos digits with rfl | pos
  · rfl
  · have more : 0 < digits * 10 := by omega
    rcases Int.lt_or_le exponent 0 with behind | before
    · obtain ⟨n, rfl⟩ : ∃ n : Nat, exponent = -((n + 1 : Nat) : Int) :=
        ⟨(-exponent - 1).toNat, by omega⟩
      have next : -((n + 1 : Nat) : Int) + 1 = -(n : Int) := by omega
      rw [next, ofDecimal_of_neg s more, ofDecimal_of_neg s pos, Nat.mul_right_comm]
      exact ofUnits_mul_mul s (by decide) (digits * one) (Nat.pow 10 n)
    · obtain ⟨n, rfl⟩ := Int.eq_ofNat_of_zero_le before
      have shifted : digits * 10 * Nat.pow 10 n = digits * Nat.pow 10 (n + 1) := by
        rw [Nat.mul_assoc, Nat.mul_comm 10]
        rfl
      rw [ofDecimal_of_nonneg s more, shifted, ← ofDecimal_of_nonneg s pos]
      rfl

theorem ofDecimal_mul_pow (s : Bool) (digits n : Nat) (exponent : Int) :
    ofDecimal s (digits * Nat.pow 10 n) exponent = ofDecimal s digits (exponent + n) := by
  induction n generalizing exponent with
  | zero => simp
  | succ n ih =>
    have step : digits * Nat.pow 10 (n + 1) = digits * Nat.pow 10 n * 10 :=
      (Nat.mul_assoc digits _ 10).symm
    rw [step, ofDecimal_mul_ten, ih]
    congr 1
    omega

theorem ofDecimal_true (digits : Nat) (exponent : Int) :
    ofDecimal true digits exponent = (ofDecimal false digits exponent).neg := by
  rcases Nat.eq_zero_or_pos digits with rfl | pos
  · rfl
  · rcases Int.lt_or_le exponent 0 with behind | before
    · obtain ⟨n, rfl⟩ : ∃ n : Nat, exponent = -(n : Int) := ⟨(-exponent).toNat, by omega⟩
      rw [ofDecimal_of_neg true pos, ofDecimal_of_neg false pos, ofUnits_true]
    · obtain ⟨n, rfl⟩ := Int.eq_ofNat_of_zero_le before
      rw [ofDecimal_of_nonneg true pos, ofDecimal_of_nonneg false pos, ofUnits_true]

/-! ## Numbers of the format -/

/-- The format holds the number: rounding leaves it as it is. -/
def IsHeld : Binary64 → Prop
  | .finite _ units => ofUnits false units 1 = .finite false units
  | _ => True

theorem nearest_of_dvd {num : Nat} (coarse : Nat.pow 2 (num.log2 + 1 - 53) ∣ num) :
    nearest num 1 = num := by
  have pos := pow_two_pos (num.log2 + 1 - 53)
  simp only [nearest, Nat.div_one, Nat.one_mul]
  generalize Nat.pow 2 (num.log2 + 1 - 53) = step at coarse pos ⊢
  have tie : ((0 : Nat) == step) = false := beq_eq_false_iff_ne.mpr (Nat.ne_of_lt pos)
  simp [Nat.mod_eq_zero_of_dvd coarse, tie, Nat.div_mul_cancel coarse]

theorem nearest_mul_pow_two {n : Nat} (small : n < Nat.pow 2 53) (k : Nat) :
    nearest (n * Nat.pow 2 k) 1 = n * Nat.pow 2 k := by
  rcases Nat.eq_zero_or_pos n with rfl | pos
  · rw [Nat.zero_mul]
    rfl
  · have some : n * Nat.pow 2 k ≠ 0 := Nat.ne_of_gt (Nat.mul_pos pos (pow_two_pos k))
    have below : n * Nat.pow 2 k < Nat.pow 2 (53 + k) := by
      rw [pow_two_add]
      exact Nat.mul_lt_mul_of_pos_right small (pow_two_pos k)
    have size : (n * Nat.pow 2 k).log2 < 53 + k := (Nat.log2_lt some).mpr below
    refine nearest_of_dvd (Nat.dvd_trans ?_ (Nat.dvd_mul_left _ n))
    exact Nat.pow_dvd_pow 2 (by omega)

/-- The whole numbers of up to 53 digits in base two are numbers of the format. -/
theorem ofNat_of_lt {n : Nat} (small : n < Nat.pow 2 53) : ofNat n = .finite false (n * one) := by
  have unchanged : nearest (n * one) 1 = n * one := by
    unfold one
    generalize 1074 = k
    exact nearest_mul_pow_two small k
  have finite {m : Nat} (le : 53 ≤ m) (k : Nat) : n * Nat.pow 2 k < Nat.pow 2 (m + k) := by
    rw [pow_two_add]
    have large : Nat.pow 2 53 ≤ Nat.pow 2 m := Nat.pow_le_pow_right (by decide) le
    exact Nat.mul_lt_mul_of_pos_right (Nat.lt_of_lt_of_le small large) (pow_two_pos k)
  have bounded : n * one < limit := by
    unfold one limit
    rw [show 2098 = 1024 + 1074 from rfl]
    generalize 1074 = k
    exact finite (by decide) k
  rw [ofNat, ofUnits, unchanged]
  exact if_pos bounded

end Binary64

namespace Decimal

open Binary64

theorem read_strip (s : Bool) (fuel : Nat) (d : Decimal) : (strip fuel d).read s = d.read s := by
  induction fuel generalizing d with
  | zero => rfl
  | succ fuel ih =>
    rw [strip]
    split
    · rename_i round
      have tens : d.digits / 10 * 10 = d.digits := Nat.div_mul_cancel (Nat.dvd_of_mod_eq_zero round.2)
      rw [ih, read, read, ← ofDecimal_mul_ten, tens]
    · rfl

/-- Digits that are behind the point as often as there are fives in them. -/
theorem ofUnits_pow_five {units n : Nat} :
    Binary64.ofUnits false (units * Nat.pow 5 n * Nat.pow 2 n) (Nat.pow 10 n) =
      Binary64.ofUnits false units 1 := by
  have tens : units * Nat.pow 5 n * Nat.pow 2 n = units * Nat.pow 10 n := by
    rw [Nat.mul_assoc]
    exact congrArg (units * ·) (Nat.mul_pow 5 2 n).symm
  have ten : 0 < Nat.pow 10 n := Nat.pow_pos (by decide)
  rw [tens]
  simpa using ofUnits_mul_mul false ten units 1

theorem read_exact {units : Nat} (pos : 0 < units) :
    (exact units).read false = Binary64.ofUnits false units 1 := by
  have read (n : Nat) : ofDecimal false (units * Nat.pow 5 n) (-(n : Int)) =
      Binary64.ofUnits false (units * Nat.pow 5 n * one) (Nat.pow 10 n) :=
    ofDecimal_of_neg false (Nat.mul_pos pos (Nat.pow_pos (by decide))) n
  have behind : (-1074 : Int) = -((1074 : Nat) : Int) := rfl
  rw [Decimal.read, exact, behind, read]
  unfold one
  generalize 1074 = n
  apply ofUnits_pow_five

theorem read_of_onGrid {units count : Nat} {scale : Int} {d : Decimal}
    (found : onGrid units scale count = some d) : d.read false = .finite false units := by
  have same := List.find?_some found
  exact eq_of_beq same

/-- The decimal that is chosen for a number that the format holds stands for it. -/
theorem read_ofUnits {units : Nat}
    (held : Binary64.ofUnits false units 1 = .finite false units) :
    (ofUnits units).read false = .finite false units := by
  rcases Nat.eq_zero_or_pos units with rfl | pos
  · rfl
  · rw [ofUnits, if_neg (Nat.ne_of_gt pos)]
    simp only
    rw [read_strip]
    cases found : (List.range 17).findSome? fun i => onGrid units (magnitude units) (i + 1) with
    | none => exact (read_exact pos).trans held
    | some d =>
      obtain ⟨i, -, grid⟩ := List.exists_of_findSome?_eq_some found
      exact read_of_onGrid grid

end Decimal

end JobWatch
