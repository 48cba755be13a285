import JobWatch.Text.Blank
import Mathlib.Data.List.DropRight

/-!
# Blanks at the ends of texts

A text that has been trimmed has no blanks at its ends any more, and only characters that it had
before.
-/

namespace JobWatch.Text

variable {s : List Char}

theorem dropWhile_of_no_blank (none : ∀ c ∈ s, isBlank c = false) : s.dropWhile isBlank = s := by
  cases s with
  | nil => rfl
  | cons c rest => exact List.dropWhile_cons_of_neg (by simp [none c List.mem_cons_self])

theorem trim_of_no_blank (none : ∀ c ∈ s, isBlank c = false) : trim s = s := by
  have reversed : ∀ c ∈ s.reverse, isBlank c = false := fun c hc => none c (List.mem_reverse.mp hc)
  rw [trim, dropWhile_of_no_blank none, dropWhile_of_no_blank reversed, List.reverse_reverse]

theorem trim_eq_rdropWhile (s : List Char) :
    trim s = (s.dropWhile isBlank).rdropWhile isBlank := rfl

theorem trim_infix (s : List Char) : trim s <:+: s := by
  rw [trim_eq_rdropWhile]
  exact (List.rdropWhile_prefix _ _).isInfix.trans (List.dropWhile_suffix _).isInfix

/-- What is dropped at the end takes nothing away from the beginning. -/
theorem dropWhile_trim (s : List Char) : (trim s).dropWhile isBlank = trim s := by
  rw [trim_eq_rdropWhile, List.dropWhile_eq_self_iff]
  intro filled
  have front := List.rdropWhile_prefix isBlank (s.dropWhile isBlank)
  rw [front.getElem filled]
  exact List.dropWhile_get_zero_not isBlank s (filled.trans_le front.length_le)

theorem trim_trim (s : List Char) : trim (trim s) = trim s := by
  rw [trim_eq_rdropWhile (trim s), dropWhile_trim, trim_eq_rdropWhile, List.rdropWhile_idempotent]

end JobWatch.Text
