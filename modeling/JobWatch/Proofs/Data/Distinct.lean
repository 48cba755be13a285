import JobWatch.Status
import Mathlib.Data.List.Nodup
import Mathlib.Data.List.Perm.Subperm

/-!
# Lists without repeats

A list from which the repeats have been dropped holds what the list holds, each once. In a list
whose keys do not repeat, whatever is in it is found by its key.
-/

namespace JobWatch

variable {α : Type} [DecidableEq α]

theorem mem_remember {seen : List α} {x y : α} :
    y ∈ remember seen x ↔ y ∈ seen ∨ y = x := by
  unfold remember
  split
  · rename_i known
    exact ⟨Or.inl, fun h => h.elim id (fun same => same ▸ known)⟩
  · simp

theorem mem_foldl_remember {xs seen : List α} {y : α} :
    y ∈ xs.foldl remember seen ↔ y ∈ seen ∨ y ∈ xs := by
  induction xs generalizing seen with
  | nil => simp
  | cons x rest ih => rw [List.foldl_cons, ih, mem_remember, List.mem_cons, or_assoc]

theorem mem_foldl_foldl_remember {β : Type} {f : β → List α} {xs : List β}
    {seen : List α} {y : α} :
    y ∈ xs.foldl (fun seen x => (f x).foldl remember seen) seen ↔
      y ∈ seen ∨ ∃ x ∈ xs, y ∈ f x := by
  induction xs generalizing seen with
  | nil => simp
  | cons x rest ih =>
    rw [List.foldl_cons, ih, mem_foldl_remember, or_assoc]
    simp only [List.mem_cons, exists_eq_or_imp]

theorem mem_distinct {xs : List α} {y : α} :
    y ∈ distinct xs ↔ y ∈ xs := by
  simp [distinct, mem_foldl_remember]

theorem nodup_remember {seen : List α} {x : α} (h : seen.Nodup) : (remember seen x).Nodup := by
  unfold remember
  split
  · exact h
  · rename_i fresh
    refine List.nodup_append.mpr ⟨h, by simp, fun y hy z hz same => ?_⟩
    rw [List.mem_singleton.mp hz] at same
    exact fresh (same ▸ hy)

theorem nodup_foldl_remember {xs seen : List α} (h : seen.Nodup) :
    (xs.foldl remember seen).Nodup := by
  induction xs generalizing seen with
  | nil => exact h
  | cons x rest ih => exact ih (nodup_remember h)

theorem nodup_distinct (xs : List α) : (distinct xs).Nodup := nodup_foldl_remember List.nodup_nil

theorem foldl_remember_sublist (xs seen : List α) :
    (xs.foldl remember seen).Sublist (seen ++ xs) := by
  induction xs generalizing seen with
  | nil => rw [List.foldl_nil, List.append_nil]
  | cons x rest ih =>
    have fewer : (remember seen x).Sublist (seen ++ [x]) := by
      unfold remember
      split
      · exact List.sublist_append_left seen [x]
      · exact List.Sublist.refl _
    rw [List.foldl_cons, List.append_cons]
    exact (ih _).trans (fewer.append_right rest)

/-- Nothing gets lost exactly where nothing is repeated. -/
theorem length_distinct_eq_iff {xs : List α} : (distinct xs).length = xs.length ↔ xs.Nodup := by
  have shorter := foldl_remember_sublist xs []
  constructor
  · intro same
    have all : distinct xs = xs := shorter.eq_of_length same
    exact all ▸ nodup_distinct xs
  · intro h
    have all := List.subperm_of_subset h fun x hx => mem_distinct.mpr hx
    exact Nat.le_antisymm shorter.length_le all.length_le

theorem foldl_remember_eq_eraseDups (xs seen : List α) :
    xs.foldl remember seen = seen ++ (xs.filter (· ∉ seen)).eraseDups := by
  induction xs generalizing seen with
  | nil => simp
  | cons x rest ih =>
    rw [List.foldl_cons, ih]
    by_cases known : x ∈ seen
    · rw [remember, if_pos known, List.filter_cons_of_neg (by simpa using known)]
    · have fresh : (rest.filter (· ∉ seen)).filter (!· == x) = rest.filter (· ∉ seen ++ [x]) := by
        rw [List.filter_filter]
        refine List.filter_congr fun y _ => ?_
        by_cases same : y = x <;> simp [same]
      rw [remember, if_neg known, List.filter_cons_of_pos (by simpa using known),
        List.eraseDups_cons, fresh, List.append_assoc, List.singleton_append]

/-- The repeats that are dropped are those that the library drops. -/
theorem distinct_eq_eraseDups (xs : List α) : distinct xs = xs.eraseDups := by
  rw [distinct, foldl_remember_eq_eraseDups]
  simp

theorem prefix_foldl_remember (xs seen : List α) : seen <+: xs.foldl remember seen := by
  rw [foldl_remember_eq_eraseDups]
  exact List.prefix_append _ _

theorem distinct_eq_singleton_iff {xs : List α} {x : α} :
    distinct xs = [x] ↔ x ∈ xs ∧ ∀ y ∈ xs, y = x := by
  have same_members := List.perm_ext_iff_of_nodup (nodup_distinct xs) (List.nodup_singleton x)
  rw [← List.perm_singleton, same_members]
  simp only [mem_distinct, List.mem_singleton]
  exact ⟨fun same => ⟨(same x).mpr rfl, fun y => (same y).mp⟩,
    fun ⟨among, all⟩ y => ⟨all y, fun called => called ▸ among⟩⟩

theorem find?_key {β : Type} {key : β → α} {l : List β} (unique : (l.map key).Nodup) {x : β}
    (listed : x ∈ l) : l.find? (key · = key x) = some x := by
  have some_found : (l.find? (key · = key x)).isSome :=
    List.find?_isSome.mpr ⟨x, listed, decide_eq_true rfl⟩
  obtain ⟨y, found⟩ := Option.isSome_iff_exists.mp some_found
  have same : key y = key x := by simpa using List.find?_some found
  have listed_too := List.mem_of_find?_eq_some found
  rw [found, List.inj_on_of_nodup_map unique listed_too listed same]

end JobWatch
