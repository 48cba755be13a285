import JobWatch.Text.Search

/-!
# Occurrences in texts

The search for a text inside another finds exactly its occurrences as a run of characters. A text
is taken apart at the last of them, and what stands before that does not matter to what stands
after it.
-/

namespace JobWatch.Text

theorem startsWith_iff {s t : List Char} : startsWith s t = true ↔ s <+: t := by
  induction s generalizing t with
  | nil => simp [startsWith]
  | cons a s ih =>
    cases t with
    | nil => simp [startsWith]
    | cons b t => simp [startsWith, List.cons_prefix_cons, ih]

theorem occursIn_iff {needle text : List Char} :
    occursIn needle text = true ↔ needle <:+: text := by
  induction text with
  | nil => simp [occursIn]
  | cons c rest ih => simp [occursIn, List.infix_cons_iff, startsWith_iff, ih]

theorem contains_iff {text needle : String} :
    contains text needle = true ↔ needle.toList <:+: text.toList :=
  occursIn_iff

/-! ## The last occurrence -/

section Last

variable {c : Char} {cs text before after : List Char}

theorem splitLast_eq_none_iff : splitLast (c :: cs) text = none ↔ ¬ c :: cs <:+: text := by
  induction text with
  | nil => simp [splitLast]
  | cons x rest ih =>
    rw [splitLast, List.infix_cons_iff, not_or, ← ih, ← startsWith_iff]
    cases splitLast (c :: cs) rest with
    | none => by_cases here : startsWith (c :: cs) (x :: rest) = true <;> simp [here]
    | some halves => simp

theorem eq_append_of_splitLast (split : splitLast (c :: cs) text = some (before, after)) :
    text = before ++ (c :: cs) ++ after := by
  induction text generalizing before with
  | nil => cases split
  | cons x rest ih =>
    rw [splitLast] at split
    cases later : splitLast (c :: cs) rest with
    | some halves =>
      rw [later] at split
      obtain ⟨rfl, rfl⟩ : x :: halves.1 = before ∧ halves.2 = after := by simpa using split
      rw [ih later, List.cons_append, List.cons_append]
    | none =>
      rw [later] at split
      by_cases here : startsWith (c :: cs) (x :: rest) = true
      · simp only [if_pos here, Option.some.injEq, Prod.mk.injEq] at split
        obtain ⟨rfl, rfl⟩ := split
        obtain ⟨tail, same⟩ := startsWith_iff.mp here
        rw [← same, List.drop_left, List.nil_append]
      · simp only [if_neg here, reduceCtorEq] at split

/-- What stands before a separator does not matter if there is one behind it. -/
theorem splitLast_append (lead : List Char)
    (split : splitLast (c :: cs) text = some (before, after)) :
    splitLast (c :: cs) (lead ++ text) = some (lead ++ before, after) := by
  induction lead with
  | nil => exact split
  | cons x lead ih => simp only [List.cons_append, splitLast, ih]

/-- A separator is the last one if it does not begin anew before the end, not even within
itself. -/
theorem splitLast_of_last (last : ¬ c :: cs <:+: cs ++ after) :
    splitLast (c :: cs) (c :: cs ++ after) = some ([], after) := by
  have starts : startsWith (c :: cs) (c :: cs ++ after) = true :=
    startsWith_iff.mpr (List.prefix_append _ _)
  rw [List.cons_append, splitLast, splitLast_eq_none_iff.mpr last]
  simp only [← List.cons_append, starts, if_true, List.drop_left]

end Last

end JobWatch.Text
