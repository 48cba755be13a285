import JobWatch.Calendar

/-!
# Texts of instants

A timestamp is written with digits and three marks, whatever the instant.
-/

namespace JobWatch.Calendar

theorem isDigit_of_mem_pad {width n : Nat} {c : Char} (h : c ∈ pad width n) : c.isDigit = true := by
  rcases List.mem_append.mp h with fill | digit
  · rw [(List.mem_replicate.mp fill).2]
    rfl
  · exact Nat.isDigit_of_mem_toDigits (by decide) (by decide) digit

/-- What a timestamp is written with. -/
def isWritten (c : Char) : Bool := c.isDigit || "- :".toList.contains c

theorem isWritten_of_isDigit {c : Char} (digit : c.isDigit = true) : isWritten c = true := by
  rw [isWritten, digit, Bool.true_or]

theorem isWritten_timestamp (ms : Int) : ∀ c ∈ (timestamp ms).toList, isWritten c = true := by
  have dash : isWritten '-' = true := by decide
  have blank : isWritten ' ' = true := by decide
  have colon : isWritten ':' = true := by decide
  have padded (n : Nat) : ∀ c ∈ pad 2 n, isWritten c = true := fun c hc =>
    isWritten_of_isDigit (isDigit_of_mem_pad hc)
  have digits (n : Nat) : ∀ c ∈ Nat.toDigits 10 n, isWritten c = true := fun c hc =>
    isWritten_of_isDigit (Nat.isDigit_of_mem_toDigits (by decide) (by decide) hc)
  have year : ∀ c ∈ yearText (fields ms).year, isWritten c = true := by
    rw [yearText]
    split
    · exact List.forall_mem_cons.mpr ⟨dash, digits _⟩
    · exact digits _
  simp only [timestamp, String.toList_ofList, List.forall_mem_append, List.forall_mem_cons]
  exact ⟨year, dash, padded _, dash, padded _, blank, padded _, colon, padded _, colon, padded _⟩

end JobWatch.Calendar
