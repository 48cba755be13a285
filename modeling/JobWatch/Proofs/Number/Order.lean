import JobWatch.Number.Binary64

/-!
# Order and sums of numbers

Comparison with whole numbers is monotone, and a sum of numbers that are not negative is positive
exactly when one of its terms is. Rounding is only used through one fact: what is not zero does
not round to zero. Nothing is asserted about how large a rounding error may be.
-/

namespace JobWatch.Binary64

theorem pow_two_pos (n : Nat) : 0 < Nat.pow 2 n := Nat.pow_pos (by decide)

theorem one_pos : 0 < one := by
  unfold one
  apply pow_two_pos

theorem atMost_mono {x : Binary64} {m n : Int} (le : m ≤ n) (h : x.atMost m = true) :
    x.atMost n = true := by
  cases x with
  | nan => exact h
  | infinite s => exact h
  | finite s u =>
    have hu : signed s u ≤ m * (one : Int) := of_decide_eq_true h
    have grow : m * (one : Int) ≤ n * (one : Int) :=
      Int.mul_le_mul_of_nonneg_right le (Int.natCast_nonneg one)
    exact decide_eq_true (Int.le_trans hu grow)

/-- A whole number that the format holds exactly is compared as what it is. -/
theorem atMost_whole {k : Nat} {n : Int} :
    (finite false (k * one)).atMost n = true ↔ (k : Int) ≤ n := by
  have pos : (0 : Int) < one := Int.natCast_pos.mpr one_pos
  simp only [atMost, signed, Bool.false_eq_true, if_false, decide_eq_true_eq, Int.natCast_mul]
  exact Int.mul_le_mul_right pos

/-- Greater than the whole number `n`, compared exactly. -/
def isAbove (x : Binary64) (n : Int) : Bool :=
  match x with
  | .nan => false
  | .infinite s => !s
  | .finite s u => decide (n * (one : Int) < signed s u)

/-- Of a positive number, every whole number is either below it or not. -/
theorem isAbove_iff_of_isPositive {x : Binary64} (positive : x.isPositive = true) (n : Int) :
    x.isAbove n = true ↔ ¬ x.atMost n = true := by
  cases x with
  | nan => cases positive
  | infinite s => cases s <;> simp [isAbove, atMost]
  | finite s u =>
    change decide (n * (one : Int) < signed s u) = true ↔
      ¬ decide (signed s u ≤ n * (one : Int)) = true
    rw [decide_eq_true_iff, decide_eq_true_iff, Int.not_le]

theorem not_atMost_zero_of_isPositive {x : Binary64} (positive : x.isPositive = true) :
    ¬ x.atMost 0 = true := by
  cases x with
  | nan => cases positive
  | infinite s => simpa [isPositive, atMost] using positive
  | finite s u =>
    obtain ⟨rfl, pos⟩ : s = false ∧ 0 < u := by simpa [isPositive] using positive
    simp only [atMost, signed, Bool.false_eq_true, if_false, Int.zero_mul, decide_eq_true_eq]
    omega

/-- A number, and not below zero. -/
inductive IsNonneg : Binary64 → Prop
  | infinite : IsNonneg (.infinite false)
  | finite {s : Bool} {u : Nat} (h : s = false ∨ u = 0) : IsNonneg (.finite s u)

theorem signed_eq {s : Bool} {u : Nat} (h : s = false ∨ u = 0) : signed s u = u := by
  rcases h with rfl | rfl
  · rfl
  · cases s <;> rfl

theorem isNegative_finite_eq_false_iff {s : Bool} {u : Nat} :
    (finite s u).isNegative = false ↔ s = false ∨ u = 0 := by
  cases s <;> simp [isNegative]

theorem zero_le_finite_iff {s : Bool} {u : Nat} :
    le zero (finite s u) = true ↔ s = false ∨ u = 0 := by
  cases s <;> simp [le, zero, signed]

theorem isNonneg_zero : zero.IsNonneg := .finite (Or.inl rfl)

/-- A whole number of units that is not zero does not round to zero. -/
theorem nearest_pos {num : Nat} (pos : 0 < num) : 0 < nearest num 1 := by
  have step : Nat.pow 2 (num.log2 + 1 - 53) ≤ num :=
    calc
      2 ^ (num.log2 + 1 - 53) ≤ 2 ^ num.log2 := Nat.pow_le_pow_right (by decide) (by omega)
      _ ≤ num := Nat.log2_self_le (by omega)
  have scale : 0 < Nat.pow 2 (num.log2 + 1 - 53) := pow_two_pos _
  have whole : 0 < num / Nat.pow 2 (num.log2 + 1 - 53) := Nat.div_pos step scale
  simp only [nearest, Nat.div_one, Nat.one_mul]
  refine Nat.mul_pos ?_ scale
  split
  · exact Nat.succ_pos _
  · exact whole

/-- A rounded value is a finite one, or infinite with the same sign. -/
theorem ofUnits_cases (negative : Bool) (num den : Nat) :
    ofUnits negative num den = .finite negative (nearest num den) ∨
      ofUnits negative num den = .infinite negative := by
  unfold ofUnits
  generalize limit = l
  dsimp only
  split
  · exact Or.inl rfl
  · exact Or.inr rfl

theorem isNonneg_ofUnits (num : Nat) : (ofUnits false num 1).IsNonneg := by
  rcases ofUnits_cases false num 1 with h | h
  · rw [h]
    exact .finite (Or.inl rfl)
  · rw [h]
    exact .infinite

theorem isPositive_ofUnits {num : Nat} (pos : 0 < num) :
    (ofUnits false num 1).isPositive = true := by
  rcases ofUnits_cases false num 1 with h | h
  · simp [h, isPositive, nearest_pos pos]
  · simp [h, isPositive]

theorem isNonneg_ofNat (n : Nat) : (ofNat n).IsNonneg := isNonneg_ofUnits _

theorem isPositive_ofNat {n : Nat} : (ofNat n).isPositive = true ↔ 0 < n := by
  constructor
  · intro positive
    apply Nat.pos_of_ne_zero
    rintro rfl
    revert positive
    decide +kernel
  · intro pos
    exact isPositive_ofUnits (Nat.mul_pos pos one_pos)

theorem IsNonneg.isTruthy_eq {x : Binary64} (h : x.IsNonneg) : x.isTruthy = x.isPositive := by
  cases h with
  | infinite => rfl
  | finite h => rcases h with rfl | rfl <;> simp [isTruthy, isPositive]

theorem isTruthy_ofNat {n : Nat} : (ofNat n).isTruthy = true ↔ 0 < n := by
  rw [(isNonneg_ofNat n).isTruthy_eq, isPositive_ofNat]

/-- A sum of numbers that are not below zero is positive exactly if one of them is. -/
theorem add_isPositive {x y : Binary64} (hx : x.IsNonneg) (hy : y.IsNonneg) :
    (x + y).IsNonneg ∧
      ((x + y).isPositive = true ↔ x.isPositive = true ∨ y.isPositive = true) := by
  change (add x y).IsNonneg ∧ ((add x y).isPositive = true ↔ _)
  cases hx with
  | infinite =>
    cases hy with
    | infinite => exact ⟨.infinite, by simp [add, isPositive]⟩
    | finite hb => exact ⟨.infinite, by simp [add, isPositive]⟩
  | @finite a m ha =>
    cases hy with
    | infinite => exact ⟨.infinite, by simp [add, isPositive]⟩
    | @finite b n hb =>
      have left : (finite a m).isPositive = true ↔ 0 < m := by
        rcases ha with rfl | rfl <;> simp [isPositive]
      have right : (finite b n).isPositive = true ↔ 0 < n := by
        rcases hb with rfl | rfl <;> simp [isPositive]
      rw [left, right]
      by_cases nothing : m + n = 0
      · obtain ⟨rfl, rfl⟩ : m = 0 ∧ n = 0 := by omega
        have sum : add (finite a 0) (finite b 0) = finite (a && b) 0 := by
          simp [add, signed_eq]
        rw [sum]
        exact ⟨.finite (Or.inr rfl), by simp [isPositive]⟩
      · have sum : add (finite a m) (finite b n) = ofUnits false (m + n) 1 := by
          have notZero : (m : Int) + n ≠ 0 := by omega
          have notBelow : ¬ (m : Int) + n < 0 := by omega
          have size : ((m : Int) + n).natAbs = m + n := by omega
          simp only [add, signed_eq ha, signed_eq hb, if_neg notZero, notBelow, decide_false, size]
        rw [sum, isPositive_ofUnits (show 0 < m + n by omega)]
        exact ⟨isNonneg_ofUnits (m + n), fun _ => by omega, fun _ => rfl⟩

theorem foldl_add_isPositive {α : Type} (f : α → Binary64) (xs : List α)
    (nonneg : ∀ x ∈ xs, (f x).IsNonneg) {total : Binary64} (ht : total.IsNonneg) :
    (xs.foldl (fun total x => total + f x) total).IsNonneg ∧
      ((xs.foldl (fun total x => total + f x) total).isPositive = true ↔
        total.isPositive = true ∨ ∃ x ∈ xs, (f x).isPositive = true) := by
  induction xs generalizing total with
  | nil => simpa using ht
  | cons x rest ih =>
    obtain ⟨sum, first⟩ := add_isPositive ht (nonneg x List.mem_cons_self)
    obtain ⟨all, later⟩ := ih (fun x hx => nonneg x (List.mem_cons_of_mem _ hx)) sum
    refine ⟨all, ?_⟩
    rw [List.foldl_cons, later, first, or_assoc]
    simp only [List.mem_cons, exists_eq_or_imp]

end JobWatch.Binary64
