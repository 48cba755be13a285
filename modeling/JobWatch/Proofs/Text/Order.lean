import JobWatch.Text.Units
import Mathlib.Data.List.Lex
import Mathlib.Data.List.Nodup

/-!
# The order of texts

Texts are ordered by their 16-bit units, like words in a dictionary. Different texts have different
units, so the order is strict and total. Sorting rearranges, and if no key is repeated the result
ascends strictly; such a list is known by its members.
-/

namespace JobWatch.Text

/-! ## Units -/

theorem char_valid (c : Char) : c.toNat < 0xD800 ∨ 0xDFFF < c.toNat ∧ c.toNat < 0x110000 := c.valid

/-- The units of one character are no beginning of those of another. -/
theorem charUnits_append_inj {c d : Char} {rest rest' : List Nat}
    (same : charUnits c ++ rest = charUnits d ++ rest') : c = d ∧ rest = rest' := by
  have hc := char_valid c
  have hd := char_valid d
  unfold charUnits at same
  by_cases small : c.toNat < 0x10000 <;> by_cases small' : d.toNat < 0x10000
  · simp only [if_pos small, if_pos small', List.cons_append, List.nil_append,
      List.cons.injEq] at same
    exact ⟨Char.toNat_inj.mp same.1, same.2⟩
  -- a single unit is never the leading half of a pair
  · simp only [if_pos small, if_neg small', List.cons_append, List.nil_append,
      List.cons.injEq] at same
    omega
  · simp only [if_neg small, if_pos small', List.cons_append, List.nil_append,
      List.cons.injEq] at same
    omega
  · simp only [if_neg small, if_neg small', List.cons_append, List.nil_append,
      List.cons.injEq] at same
    exact ⟨Char.toNat_inj.mp (by omega), same.2.2⟩

theorem charUnits_ne_nil (c : Char) : charUnits c ≠ [] := by
  unfold charUnits
  split <;> simp

theorem flatMap_charUnits_injective {s t : List Char}
    (same : s.flatMap charUnits = t.flatMap charUnits) : s = t := by
  induction s generalizing t with
  | nil =>
    cases t with
    | nil => rfl
    | cons d t => simp [charUnits_ne_nil] at same
  | cons c s ih =>
    cases t with
    | nil => simp [charUnits_ne_nil] at same
    | cons d t =>
      obtain ⟨rfl, rest⟩ := charUnits_append_inj same
      rw [ih rest]

theorem units_injective {a b : String} (same : units a = units b) : a = b :=
  String.toList_injective (flatMap_charUnits_injective same)

theorem units_of_small {s : String} (small : ∀ c ∈ s.toList, c.toNat < 0x10000) :
    units s = s.toList.map Char.toNat := by
  rw [units, List.map_eq_flatMap]
  refine List.flatMap_congr fun c listed => ?_
  rw [charUnits, if_pos (small c listed)]

/-! ## The order -/

/-- The text comes before the other one in the order of their units. -/
def Precedes (a b : String) : Prop := List.Lex (· < ·) (units a) (units b)

theorem unitsBefore_iff {s t : List Nat} : unitsBefore s t = true ↔ List.Lex (· < ·) s t := by
  induction s generalizing t with
  | nil => cases t <;> simp [unitsBefore]
  | cons a s ih =>
    cases t with
    | nil => simp [unitsBefore]
    | cons b t =>
      by_cases same : a = b
      · subst same
        rw [unitsBefore, if_pos rfl, ih, List.lex_cons_iff]
      · rw [unitsBefore, if_neg same, decide_eq_true_iff]
        refine ⟨List.Lex.rel, fun before => ?_⟩
        cases before with
        | rel less => exact less
        | cons _ => exact absurd rfl same

theorem before_iff {a b : String} : before a b = true ↔ Precedes a b := unitsBefore_iff

theorem Precedes.trans {a b c : String} (first : Precedes a b) (second : Precedes b c) :
    Precedes a c := List.lex_trans Nat.lt_trans first second

theorem Precedes.not_swap {a b : String} (h : Precedes a b) : ¬ Precedes b a :=
  fun swapped => Std.Asymm.asymm (r := List.Lex (· < ·)) _ _ h swapped

theorem not_precedes_self (a : String) : ¬ Precedes a a := fun h => h.not_swap h

theorem precedes_of_not_swap {a b : String} (different : a ≠ b) (h : ¬ Precedes b a) :
    Precedes a b := by
  by_contra neither
  exact different (units_injective (Std.Trichotomous.trichotomous _ _ neither h))

/-- Texts of small characters are ordered character by character. -/
theorem precedes_of_small {a b : String} (small : ∀ c ∈ a.toList, c.toNat < 0x10000)
    (small' : ∀ c ∈ b.toList, c.toNat < 0x10000)
    (before : List.Lex (· < ·) a.toList b.toList) : Precedes a b := by
  rw [Precedes, units_of_small small, units_of_small small']
  generalize a.toList = s at before
  generalize b.toList = t at before
  clear small small'
  induction before with
  | nil => exact .nil
  | cons _ ih => exact .cons ih
  | rel less => exact .rel less

/-- Each text comes before all later ones. -/
def Ascending (texts : List String) : Prop := texts.Pairwise Precedes

theorem Ascending.nodup {texts : List String} (h : Ascending texts) : texts.Nodup := by
  refine List.Pairwise.imp (fun {a b} before => ?_) h
  rintro rfl
  exact not_precedes_self a before

/-- Members in ascending order are in the only one. -/
theorem Ascending.ext {xs ys : List String} (hx : Ascending xs) (hy : Ascending ys)
    (same : ∀ x, x ∈ xs ↔ x ∈ ys) : xs = ys :=
  List.Perm.eq_of_pairwise (fun _ _ _ _ before after => absurd after before.not_swap) hx hy
    ((List.perm_ext_iff_of_nodup hx.nodup hy.nodup).mpr same)

/-! ## Sorting -/

section Sorting

variable {α : Type} (key : α → String)

theorem insertSorted_perm (x : α) (l : List α) : (insertSorted key x l).Perm (x :: l) := by
  induction l with
  | nil => exact .refl _
  | cons y rest ih =>
    unfold insertSorted
    split
    · exact .refl _
    · exact (ih.cons y).trans (.swap x y rest)

theorem foldl_insertSorted_perm (xs sorted : List α) :
    (xs.foldl (fun sorted x => insertSorted key x sorted) sorted).Perm (xs ++ sorted) := by
  induction xs generalizing sorted with
  | nil => exact .refl _
  | cons x rest ih =>
    rw [List.foldl_cons, List.cons_append]
    exact (ih _).trans (((insertSorted_perm key x sorted).append_left rest).trans
      List.perm_middle)

theorem sortBy_perm (xs : List α) : (sortBy key xs).Perm xs := by
  have sorted := foldl_insertSorted_perm key xs []
  rwa [List.append_nil] at sorted

/-- An element is put in front of the first one that it comes before, so behind all others. -/
theorem ascending_insertSorted {x : α} {l : List α} (ascending : Ascending (l.map key))
    (fresh : key x ∉ l.map key) : Ascending ((insertSorted key x l).map key) := by
  induction l with
  | nil => exact List.pairwise_singleton _ _
  | cons y rest ih =>
    obtain ⟨first, later⟩ := List.pairwise_cons.mp ascending
    obtain ⟨other, fresh⟩ := not_or.mp (List.mem_cons.not.mp fresh)
    unfold insertSorted
    by_cases inFront : before (key x) (key y) = true
    · rw [if_pos inFront]
      have before := before_iff.mp inFront
      refine List.pairwise_cons.mpr ⟨fun z listed => ?_, ascending⟩
      rcases List.mem_cons.mp listed with rfl | listed
      · exact before
      · exact before.trans (first z listed)
    · rw [if_neg inFront]
      have behind : Precedes (key y) (key x) :=
        precedes_of_not_swap (Ne.symm other) fun h => inFront (before_iff.mpr h)
      refine List.pairwise_cons.mpr ⟨fun z listed => ?_, ih later fresh⟩
      have among : z ∈ (x :: rest).map key :=
        ((insertSorted_perm key x rest).map key).mem_iff.mp listed
      rcases List.mem_cons.mp among with rfl | listed
      · exact behind
      · exact first z listed

theorem ascending_foldl_insertSorted {xs sorted : List α} (ascending : Ascending (sorted.map key))
    (unique : ((xs ++ sorted).map key).Nodup) :
    Ascending ((xs.foldl (fun sorted x => insertSorted key x sorted) sorted).map key) := by
  induction xs generalizing sorted with
  | nil => exact ascending
  | cons x rest ih =>
    rw [List.cons_append, List.map_cons] at unique
    obtain ⟨fresh, unique⟩ := List.nodup_cons.mp unique
    have moved : (rest ++ insertSorted key x sorted).Perm (x :: (rest ++ sorted)) :=
      ((insertSorted_perm key x sorted).append_left rest).trans List.perm_middle
    refine ih (ascending_insertSorted key ascending fun listed => fresh ?_) ?_
    · rw [List.map_append]
      exact List.mem_append_right _ listed
    · exact (moved.map key).nodup_iff.mpr (List.nodup_cons.mpr ⟨fresh, unique⟩)

/-- Sorted by a key that is not repeated, a list ascends strictly. -/
theorem ascending_sortBy {xs : List α} (unique : (xs.map key).Nodup) :
    Ascending ((sortBy key xs).map key) :=
  ascending_foldl_insertSorted key List.Pairwise.nil (by rwa [List.append_nil])

end Sorting

theorem ascending_sort {xs : List String} (unique : xs.Nodup) : Ascending (sort xs) := by
  have sorted := ascending_sortBy id (by rwa [List.map_id])
  rwa [List.map_id] at sorted

theorem mem_sort {xs : List String} {x : String} : x ∈ sort xs ↔ x ∈ xs :=
  (sortBy_perm id xs).mem_iff

end JobWatch.Text
