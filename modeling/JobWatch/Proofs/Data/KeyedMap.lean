import JobWatch.Proofs.Data.Distinct

/-!
# Entries of maps

The order of a map is a rearrangement of the entries that have arrived. A map that is filed from
a function on names holds exactly the filed names, each with its value, apart from the one name
that cannot be filed. Of values filed under one name a map holds the last.
-/

namespace JobWatch.KeyedMap

variable {α : Type}

/-! ## The order of a map -/

theorem insertIndex_perm (e : Nat × String × α) (l : List (Nat × String × α)) :
    (insertIndex e l).Perm (e :: l) := by
  induction l with
  | nil => exact .refl _
  | cons f rest ih =>
    unfold insertIndex
    split
    · exact .refl _
    · exact (ih.cons f).trans (.swap e f rest)

theorem foldl_insertIndex_perm (found sorted : List (Nat × String × α)) :
    (found.foldl (fun sorted e => insertIndex e sorted) sorted).Perm (found ++ sorted) := by
  induction found generalizing sorted with
  | nil => exact .refl _
  | cons e rest ih =>
    rw [List.foldl_cons, List.cons_append]
    exact (ih _).trans (((insertIndex_perm e sorted).append_left rest).trans List.perm_middle)

theorem indexed_perm (m : KeyedMap α) :
    m.indexed.Perm (m.arrivals.filter fun e => (index? e.1).isSome) := by
  have found : ((m.arrivals.filterMap fun e => (index? e.1).map fun n => (n, e)).map (·.2)) =
      m.arrivals.filter fun e => (index? e.1).isSome := by
    rw [List.map_filterMap, ← List.filterMap_eq_filter]
    refine congrArg (fun f => List.filterMap f m.arrivals) (funext fun e => ?_)
    cases found : index? e.1 <;> simp [Option.guard, found]
  rw [indexed, ← found]
  refine List.Perm.map _ ?_
  simpa using foldl_insertIndex_perm (m.arrivals.filterMap _) []

/-- The order of a map is a rearrangement of the entries that have arrived. -/
theorem toList_perm (m : KeyedMap α) : m.toList.Perm m.arrivals := by
  have split := List.filter_append_perm (fun e : String × α => (index? e.1).isSome) m.arrivals
  have named : m.named = m.arrivals.filter fun e => !(index? e.1).isSome := by
    simp only [KeyedMap.named, Option.not_isSome]
  rw [toList, named]
  exact (m.indexed_perm.append_right _).trans split

theorem mem_toList {m : KeyedMap α} {e : String × α} : e ∈ m.toList ↔ e ∈ m.arrivals :=
  m.toList_perm.mem_iff

/-! ## Filing from a function -/

theorem mem_replace {name : String} {value : α} {e : String × α} {l : List (String × α)}
    (he : e ∈ replace name value l) : e = (name, value) ∨ e ∈ l := by
  induction l with
  | nil => exact Or.inl (List.mem_singleton.mp he)
  | cons f rest ih =>
    unfold replace at he
    split at he
    · exact (List.mem_cons.mp he).imp id (List.mem_cons_of_mem _)
    · rcases List.mem_cons.mp he with rfl | tail
      · exact Or.inr List.mem_cons_self
      · exact (ih tail).imp id (List.mem_cons_of_mem _)

theorem self_mem_replace (name : String) (value : α) (l : List (String × α)) :
    (name, value) ∈ replace name value l := by
  induction l with
  | nil => exact List.mem_singleton_self _
  | cons f rest ih =>
    unfold replace
    split
    · exact List.mem_cons_self
    · exact List.mem_cons_of_mem _ ih

theorem mem_replace_of_ne {name : String} {value : α} {e : String × α} {l : List (String × α)}
    (he : e ∈ l) (ne : e.1 ≠ name) : e ∈ replace name value l := by
  induction l with
  | nil => cases he
  | cons f rest ih =>
    unfold replace
    rcases List.mem_cons.mp he with rfl | tail
    · rw [if_neg ne]
      exact List.mem_cons_self
    · split
      · exact List.mem_cons_of_mem _ tail
      · exact List.mem_cons_of_mem _ (ih tail)

/-- Every entry is what the function says of its name. -/
def Follows (m : KeyedMap α) (f : String → α) : Prop := ∀ e ∈ m.arrivals, e.2 = f e.1

theorem mem_file {m : KeyedMap α} {f : String → α} (follows : m.Follows f) (name : String)
    {e : String × α} :
    e ∈ (m.file name (f name)).arrivals ↔
      e ∈ m.arrivals ∨ name ≠ reserved ∧ e = (name, f name) := by
  by_cases lost : name = reserved
  · simp [file, lost]
  · simp only [file, insert, ne_eq, lost, not_false_eq_true, true_and]
    constructor
    · exact fun he => (mem_replace he).symm
    · rintro (he | rfl)
      · by_cases same : e.1 = name
        · have known : e = (name, f name) := Prod.ext same (by rw [follows e he, same])
          exact known ▸ self_mem_replace _ _ _
        · exact mem_replace_of_ne he same
      · exact self_mem_replace _ _ _

theorem follows_file {m : KeyedMap α} {f : String → α} (follows : m.Follows f) (name : String) :
    (m.file name (f name)).Follows f := by
  intro e he
  rcases (mem_file follows name).mp he with old | ⟨_, rfl⟩
  · exact follows e old
  · rfl

/-- The entries of a map after names have been filed with what the function says of them. -/
theorem mem_foldl_file {m : KeyedMap α} {f : String → α} (follows : m.Follows f)
    (names : List String) {e : String × α} :
    e ∈ (names.foldl (fun m name => m.file name (f name)) m).arrivals ↔
      e ∈ m.arrivals ∨ ∃ name ∈ names, name ≠ reserved ∧ e = (name, f name) := by
  induction names generalizing m with
  | nil => simp
  | cons name rest ih =>
    rw [List.foldl_cons, ih (follows_file follows name), mem_file follows name, or_assoc]
    simp only [List.mem_cons, exists_eq_or_imp]

theorem follows_empty (f : String → α) : (empty : KeyedMap α).Follows f := by
  intro e he
  cases he

/-- The entries of a map that is filed from a function, starting with nothing. -/
theorem mem_filed {f : String → α} {names : List String} {e : String × α} :
    e ∈ (names.foldl (fun m name => m.file name (f name)) empty).arrivals ↔
      ∃ name ∈ names, name ≠ reserved ∧ e = (name, f name) := by
  rw [mem_foldl_file (follows_empty f)]
  simp [empty]

/-! ## Names and latest values -/

theorem get?_eq_lookup (m : KeyedMap α) (name : String) : m.get? name = m.arrivals.lookup name := by
  rw [get?]
  induction m.arrivals with
  | nil => rfl
  | cons e rest ih =>
    rw [List.find?_cons, List.lookup_cons]
    by_cases same : e.1 = name
    · simp [same]
    · rw [beq_eq_false_iff_ne.mpr (Ne.symm same)]
      simpa [same] using ih

theorem lookup_cons_ite (name : String) (e : String × α) (l : List (String × α)) :
    (e :: l).lookup name = if name = e.1 then some e.2 else l.lookup name := by
  rw [List.lookup_cons]
  by_cases same : name = e.1
  · rw [if_pos same, beq_iff_eq.mpr same]
  · rw [if_neg same, beq_eq_false_iff_ne.mpr same]

theorem lookup_replace (name other : String) (value : α) (l : List (String × α)) :
    (replace name value l).lookup other = if other = name then some value else l.lookup other := by
  induction l with
  | nil => exact lookup_cons_ite other (name, value) []
  | cons e rest ih =>
    unfold replace
    by_cases here : e.1 = name
    · rw [if_pos here, lookup_cons_ite, lookup_cons_ite, here]
      by_cases same : other = name
      · simp only [if_pos same]
      · simp only [if_neg same]
    · rw [if_neg here, lookup_cons_ite, lookup_cons_ite, ih]
      by_cases same : other = name
      · simp only [same, if_neg (Ne.symm here), if_true]
      · simp only [if_neg same]

theorem map_fst_replace (name : String) (value : α) (l : List (String × α)) :
    (replace name value l).map (·.1) = remember (l.map (·.1)) name := by
  induction l with
  | nil => simp [replace, remember]
  | cons e rest ih =>
    unfold replace
    by_cases here : e.1 = name
    · simp [here, remember]
    · rw [if_neg here, List.map_cons, ih, List.map_cons, remember, remember]
      by_cases later : name ∈ rest.map (·.1)
      · rw [if_pos later, if_pos (List.mem_cons_of_mem _ later)]
      · rw [if_neg later, if_neg (by simpa [Ne.symm here] using later), List.cons_append]

/-- What is filed is found again, unless it cannot be filed, and nothing else has changed. -/
theorem get?_file (m : KeyedMap α) (name other : String) (value : α) :
    (m.file name value).get? other =
      if other = name ∧ name ≠ reserved then some value else m.get? other := by
  rw [file]
  by_cases lost : name = reserved
  · rw [if_pos lost, if_neg fun h => h.2 lost]
  · rw [if_neg lost, get?_eq_lookup, get?_eq_lookup, insert, lookup_replace]
    simp only [ne_eq, lost, not_false_eq_true, and_true]

/-- What an entry says under a name, of several entries the last one. -/
def latest? (name : String) (entries : List (String × α)) : Option α := entries.reverse.lookup name

theorem latest?_cons (name : String) (e : String × α) (entries : List (String × α)) :
    latest? name (e :: entries) =
      (latest? name entries).or (if name = e.1 then some e.2 else none) := by
  rw [latest?, List.reverse_cons, List.lookup_append, latest?, lookup_cons_ite]
  rfl

/-- The map with some entries filed one after the other. -/
def fileAll (m : KeyedMap α) (entries : List (String × α)) : KeyedMap α :=
  entries.foldl (fun m e => m.file e.1 e.2) m

theorem get?_fileAll {name : String} (filed : name ≠ reserved) (m : KeyedMap α)
    (entries : List (String × α)) :
    (m.fileAll entries).get? name = (latest? name entries).or (m.get? name) := by
  induction entries generalizing m with
  | nil => rfl
  | cons e rest ih =>
    have read := ih (m.file e.1 e.2)
    rw [fileAll, List.foldl_cons, ← fileAll, read, latest?_cons, get?_file, Option.or_assoc]
    by_cases same : name = e.1
    · rw [if_pos ⟨same, same ▸ filed⟩, if_pos same, Option.some_or]
    · rw [if_neg fun h => same h.1, if_neg same, Option.none_or]

/-- The names in a map are those filed, each once and in order of first arrival. -/
theorem names_fileAll (m : KeyedMap α) (entries : List (String × α)) :
    (m.fileAll entries).arrivals.map (·.1) =
      ((entries.map (·.1)).filter (· ≠ reserved)).foldl remember (m.arrivals.map (·.1)) := by
  induction entries generalizing m with
  | nil => rfl
  | cons e rest ih =>
    have names := ih (m.file e.1 e.2)
    rw [fileAll, List.foldl_cons, ← fileAll, names, List.map_cons, file]
    by_cases lost : e.1 = reserved
    · rw [if_pos lost, List.filter_cons_of_neg (by simpa using lost)]
    · rw [if_neg lost, List.filter_cons_of_pos (by simpa using lost), List.foldl_cons, insert,
        map_fst_replace]

theorem latest?_map {β : Type} (g : String → α → β) (name : String) (entries : List (String × α)) :
    latest? name (entries.map fun e => (e.1, g e.1 e.2)) = (latest? name entries).map (g name) := by
  induction entries with
  | nil => rfl
  | cons e rest ih =>
    rw [List.map_cons, latest?_cons, latest?_cons, ih]
    cases latest? name rest with
    | some value => rfl
    | none => by_cases same : name = e.1 <;> simp [same]

theorem exists_latest? {name : String} {entries : List (String × α)}
    (listed : name ∈ entries.map (·.1)) : ∃ value, latest? name entries = some value := by
  induction entries with
  | nil => cases listed
  | cons e rest ih =>
    rw [latest?_cons]
    by_cases later : name ∈ rest.map (·.1)
    · obtain ⟨value, found⟩ := ih later
      exact ⟨value, by rw [found, Option.some_or]⟩
    · have here : name = e.1 := (List.mem_cons.mp listed).resolve_right later
      cases latest? name rest with
      | some value => exact ⟨value, rfl⟩
      | none => exact ⟨e.2, by rw [if_pos here, Option.none_or]⟩

theorem replace_of_fresh {name : String} {l : List (String × α)} (fresh : name ∉ l.map (·.1))
    (value : α) : replace name value l = l ++ [(name, value)] := by
  induction l with
  | nil => rfl
  | cons e rest ih =>
    obtain ⟨other, fresh⟩ := not_or.mp (List.mem_cons.not.mp fresh)
    rw [replace, if_neg (Ne.symm other), ih fresh, List.cons_append]

/-- Entries with names of their own arrive as they are filed. -/
theorem arrivals_fileAll {m : KeyedMap α} {entries : List (String × α)}
    (unique : ((m.arrivals ++ entries).map (·.1)).Nodup) (filed : reserved ∉ entries.map (·.1)) :
    (m.fileAll entries).arrivals = m.arrivals ++ entries := by
  induction entries generalizing m with
  | nil => exact (List.append_nil _).symm
  | cons e rest ih =>
    obtain ⟨other, filed⟩ := not_or.mp (List.mem_cons.not.mp filed)
    have fresh : e.1 ∉ m.arrivals.map (·.1) := by
      rw [List.map_append, List.map_cons] at unique
      exact fun known => (List.nodup_append.mp unique).2.2 _ known _ List.mem_cons_self rfl
    have arrived : (m.file e.1 e.2).arrivals = m.arrivals ++ [e] := by
      rw [file, if_neg (Ne.symm other), insert, replace_of_fresh fresh]
    rw [List.append_cons, ← arrived] at unique ⊢
    exact ih unique filed

/-! ## A map that is filed from nothing -/

theorem names_fileAll_empty (entries : List (String × α)) :
    (empty.fileAll entries).arrivals.map (·.1) =
      distinct ((entries.map (·.1)).filter (· ≠ reserved)) :=
  names_fileAll empty entries

theorem keys_fileAll_empty (entries : List (String × α)) :
    (empty.fileAll entries).keys.Perm (distinct ((entries.map (·.1)).filter (· ≠ reserved))) := by
  rw [← names_fileAll_empty]
  exact (toList_perm _).map _

/-- A value that such a map holds is the last that has been filed under its name. -/
theorem latest?_of_mem_fileAll_empty {entries : List (String × α)} {e : String × α}
    (he : e ∈ (empty.fileAll entries).toList) : latest? e.1 entries = some e.2 := by
  have arrived := mem_toList.mp he
  have names := names_fileAll_empty entries
  have filed : e.1 ≠ reserved := by
    have listed : e.1 ∈ distinct ((entries.map (·.1)).filter (· ≠ reserved)) :=
      names ▸ List.mem_map_of_mem arrived
    exact of_decide_eq_true (List.mem_filter.mp (mem_distinct.mp listed)).2
  have unique : ((empty.fileAll entries).arrivals.map (·.1)).Nodup := by
    rw [names]
    exact nodup_distinct _
  have found := get?_fileAll filed empty entries
  rw [get?, find?_key unique arrived, get?_eq_lookup] at found
  exact (found.trans (Option.or_none)).symm

end JobWatch.KeyedMap
