import JobWatch.Text.Search

/-!
# Texts taken apart at a mark

A text has one piece more than it has marks. Pieces without marks that have been put together with
a mark before each but the first, or after each, come back when the text is taken apart. So do two
texts with a mark between them if there is none in the first.
-/

namespace JobWatch.Text

variable {mark : Char} {s : List Char}

theorem split_eq_splitOn (mark : Char) (s : List Char) : split mark s = s.splitOn mark := by
  induction s with
  | nil => rfl
  | cons c rest ih =>
    rw [split, List.splitOn_cons_eq_if_modifyHead, ih]
    by_cases here : c = mark
    · rw [if_pos here, if_pos (beq_iff_eq.mpr here)]
    · rw [if_neg here, if_neg fun same => here (beq_iff_eq.mp same)]
      cases pieces : rest.splitOn mark with
      | nil => exact absurd pieces (List.splitOn_ne_nil mark rest)
      | cons piece later => rfl

theorem length_split (mark : Char) (s : List Char) : (split mark s).length = s.count mark + 1 := by
  induction s with
  | nil => rfl
  | cons c rest ih =>
    rw [split, List.count_cons]
    by_cases here : c = mark
    · rw [if_pos here, List.length_cons, ih, if_pos (beq_iff_eq.mpr here)]
    · rw [if_neg here, if_neg fun same => here (beq_iff_eq.mp same)]
      cases pieces : split mark rest with
      | nil => simp [pieces] at ih
      | cons piece later =>
        rw [pieces] at ih
        exact ih

theorem split_of_not_mem (free : mark ∉ s) : split mark s = [s] := by
  rw [split_eq_splitOn, List.splitOn_eq_singleton free]

theorem split_append_mark (free : mark ∉ s) (rest : List Char) :
    split mark (s ++ mark :: rest) = s :: split mark rest := by
  rw [split_eq_splitOn, split_eq_splitOn, List.splitOn_append_cons_self_of_not_mem free]

theorem split_append_mark_split (s rest : List Char) :
    split mark (s ++ mark :: rest) = split mark s ++ split mark rest := by
  rw [split_eq_splitOn, split_eq_splitOn, split_eq_splitOn, List.splitOn_append_cons_self]

theorem getLast?_split_of_mark_last (ended : s.getLast? = some mark) :
    (split mark s).getLast? = some [] := by
  obtain ⟨front, rfl⟩ := List.getLast?_eq_some_iff.mp ended
  rw [split_append_mark_split]
  exact List.getLast?_concat

theorem split_append_flatMap (free : mark ∉ s) {pieces : List (List Char)}
    (all : ∀ piece ∈ pieces, mark ∉ piece) :
    split mark (s ++ pieces.flatMap (mark :: ·)) = s :: pieces := by
  induction pieces generalizing s with
  | nil => rw [List.flatMap_nil, List.append_nil, split_of_not_mem free]
  | cons piece later ih =>
    rw [List.flatMap_cons, List.cons_append, split_append_mark free,
      ih (all piece List.mem_cons_self) fun p hp => all p (List.mem_cons_of_mem _ hp)]

theorem not_mem_of_mem_split {piece : List Char} (listed : piece ∈ split mark s) :
    mark ∉ piece := by
  induction s generalizing piece with
  | nil => exact List.mem_singleton.mp listed ▸ List.not_mem_nil
  | cons c rest ih =>
    rw [split] at listed
    by_cases here : c = mark
    · rw [if_pos here] at listed
      cases listed with
      | head => exact List.not_mem_nil
      | tail _ later => exact ih later
    · rw [if_neg here] at listed
      have alone {first : List Char} (free : mark ∉ first) : mark ∉ c :: first :=
        List.not_mem_cons_of_ne_of_not_mem (Ne.symm here) free
      cases pieces : split mark rest with
      | nil =>
        rw [pieces] at listed
        exact List.mem_singleton.mp listed ▸ alone List.not_mem_nil
      | cons first later =>
        rw [pieces] at listed ih
        cases listed with
        | head => exact alone (ih List.mem_cons_self)
        | tail _ listed => exact ih (List.mem_cons_of_mem _ listed)

/-! ## The first mark -/

theorem splitFirst_eq_none_iff : splitFirst mark s = none ↔ mark ∉ s := by
  induction s with
  | nil => simp [splitFirst]
  | cons c rest ih =>
    by_cases here : c = mark
    · simp [splitFirst, here]
    · simp [splitFirst, here, ih, Ne.symm here]

theorem splitFirst_eq_some_iff {before after : List Char} :
    splitFirst mark s = some (before, after) ↔ mark ∉ before ∧ s = before ++ mark :: after := by
  induction s generalizing before with
  | nil => simp [splitFirst]
  | cons c rest ih =>
    rw [splitFirst]
    by_cases here : c = mark
    · cases before with
      | nil => simp [here, eq_comm]
      | cons b before => simp +contextual [here, eq_comm]
    · rw [if_neg here, Option.map_eq_some_iff]
      constructor
      · rintro ⟨⟨before, after⟩, found, ⟨rfl, rfl⟩⟩
        obtain ⟨free, rfl⟩ := ih.mp found
        exact ⟨List.not_mem_cons_of_ne_of_not_mem (Ne.symm here) free, rfl⟩
      · rintro ⟨free, same⟩
        cases before with
        | nil => exact absurd (List.cons.inj same).1 here
        | cons b before =>
          obtain ⟨rfl, rfl⟩ := List.cons.inj same
          exact ⟨(before, after), ih.mpr ⟨List.not_mem_of_not_mem_cons free, rfl⟩, rfl⟩

/-! ## Lines -/

/-- The lines of a text, each ended by a line break. There are none if something stands behind the
last line break. -/
def lines? (s : List Char) : Option (List (List Char)) :=
  if (split '\n' s).getLast? = some [] then some (split '\n' s).dropLast else none

theorem lines?_flatMap {lines : List (List Char)} (whole : ∀ line ∈ lines, '\n' ∉ line) :
    lines? (lines.flatMap (· ++ ['\n'])) = some lines := by
  have pieces : split '\n' (lines.flatMap (· ++ ['\n'])) = lines ++ [[]] := by
    induction lines with
    | nil => rfl
    | cons line later ih =>
      rw [List.flatMap_cons, List.append_assoc, List.singleton_append,
        split_append_mark (whole line List.mem_cons_self),
        ih fun l hl => whole l (List.mem_cons_of_mem _ hl), List.cons_append]
  rw [lines?, pieces, if_pos List.getLast?_concat, List.dropLast_concat]

theorem lines?_append_break {s rest : List Char} {lines : List (List Char)}
    (later : lines? rest = some lines) : lines? (s ++ '\n' :: rest) = some (split '\n' s ++ lines) := by
  rw [lines?] at later ⊢
  rw [split_append_mark_split]
  split at later
  · rename_i ended
    cases later
    have some : split '\n' rest ≠ [] := fun none => by
      rw [none] at ended
      cases ended
    rw [List.getLast?_append, ended, Option.some_or, if_pos rfl, List.dropLast_append_of_ne_nil some]
  · cases later

end JobWatch.Text
