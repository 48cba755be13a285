import JobWatch.Delay
import JobWatch.Proofs.Number.Decimal

/-!
# Checking how long a sleep may be

Whether a number of seconds is refused depends on the number alone, and not on the setting that it
is the value of. The bound is checked on the rounded delay that the timer is asked for, so what is
accepted are the numbers whose delay a timer honours, and no others.
-/

namespace JobWatch.Delay

variable {seconds : Binary64}

theorem validate_eq_ok (fine : defect? seconds = none) (label : String) :
    validate seconds label = .ok () := by
  rw [validate, fine]

theorem defect?_of_validate {label : String} (valid : validate seconds label = .ok ()) :
    defect? seconds = none := by
  rw [validate] at valid
  cases fine : defect? seconds with
  | none => rfl
  | some defect =>
    rw [fine] at valid
    cases valid

theorem exists_reason_of_defect (bad : defect? seconds ≠ none) (label : String) :
    ∃ reason, validate seconds label = .error (.configuration reason) := by
  obtain ⟨defect, known⟩ := Option.ne_none_iff_exists'.mp bad
  rw [validate, known]
  exact ⟨_, rfl⟩

/-- A number of seconds is only ever refused as a bad configuration. -/
theorem configuration_of_validate {label : String} {f : Failure}
    (refused : validate seconds label = .error f) : ∃ reason, f = .configuration reason := by
  by_cases fine : defect? seconds = none
  · cases (validate_eq_ok fine label).symm.trans refused
  · obtain ⟨reason, known⟩ := exists_reason_of_defect fine label
    exact ⟨reason, Except.error.inj (refused.symm.trans known)⟩

theorem validate_of_defect (bad : defect? seconds ≠ none) (label : String) :
    ∃ f, validate seconds label = .error f := by
  obtain ⟨reason, refused⟩ := exists_reason_of_defect bad label
  exact ⟨_, refused⟩

/-- A delay that a timer honours. -/
structure InRange (ms : Binary64) : Prop where
  finite : ms.isFinite = true
  nonneg : Binary64.le .zero ms = true
  short : ms.atMost longestMs = true

/-- A delay in range is never cut to one millisecond. -/
theorem InRange.effective_eq {ms : Binary64} (inRange : InRange ms)
    (whole : Binary64.le 1 ms = true) : effective ms = ms.truncate.toNat := by
  rw [effective, whole, inRange.short]
  rfl

theorem thousand : (1000 : Binary64) = .finite false (1000 * Binary64.one) := by decide +kernel

/-- A delay is rounded once, from a whole number of units. -/
theorem ofSeconds_finite (s : Bool) (u : Nat) :
    ofSeconds (.finite s u) = Binary64.ofUnits s (u * 1000) 1 := by
  change Binary64.mul (.finite s u) 1000 = _
  rw [thousand, Binary64.mul, Bool.bne_false, ← Nat.mul_assoc,
    ← Binary64.ofUnits_mul_mul s Binary64.one_pos (u * 1000) 1, Nat.one_mul]

theorem defect?_finite (s : Bool) (u : Nat) :
    defect? (.finite s u) = none ↔
      (s = false ∨ u = 0) ∧ (ofSeconds (.finite s u)).atMost longestMs = true := by
  rw [← Binary64.isNegative_finite_eq_false_iff, defect?]
  cases (Binary64.finite s u).isNegative <;>
    cases (ofSeconds (.finite s u)).atMost longestMs <;> simp [Binary64.isFinite]

/-- A number of seconds is accepted exactly if its delay is in range. -/
theorem defect?_eq_none_iff (seconds : Binary64) :
    defect? seconds = none ↔ InRange (ofSeconds seconds) := by
  cases seconds with
  | nan => exact iff_of_false nofun fun inRange => nomatch inRange.finite
  | infinite s =>
    have boundless : (ofSeconds (.infinite s)).isFinite = false := by
      change (Binary64.mul (.infinite s) 1000).isFinite = false
      rw [thousand, Binary64.mul]
      split <;> rfl
    exact iff_of_false nofun fun inRange => nomatch boundless.symm.trans inRange.finite
  | finite s u =>
    have none : Binary64.nearest (u * 1000) 1 = 0 ↔ u = 0 := by
      rw [Binary64.nearest_eq_zero_iff]
      omega
    rw [defect?_finite, ofSeconds_finite]
    rcases Binary64.ofUnits_cases s (u * 1000) 1 with rounded | overflown
    · rw [rounded, ← none, ← Binary64.zero_le_finite_iff]
      exact ⟨fun ⟨nonneg, short⟩ => ⟨rfl, nonneg, short⟩, fun h => ⟨h.nonneg, h.short⟩⟩
    · rw [overflown]
      refine iff_of_false ?_ fun inRange => nomatch inRange.finite
      rintro ⟨rfl | rfl, short⟩
      · cases short
      · rw [Nat.zero_mul, Binary64.ofUnits_of_lt_half s (by decide)] at overflown
        cases overflown

end JobWatch.Delay
