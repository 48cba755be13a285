import JobWatch.Files
import JobWatch.Proofs.Text.Pieces

/-!
# A file at a vacant place

A file that is put where nothing was is found again by the path that led there, and a text that is
put over it takes its place. If it is removed, the files are what they were before. A file can be
made at a path exactly if the path ends in a name and leads to a folder up to there; where there is
no room, adding text never makes any.
-/

namespace JobWatch.Folder

variable {d : Folder} {path : String} {key k : List String} {e : FileEntry}

/-! ## Entries -/

theorem lookup_filter_ne {entries : List (List String × FileEntry)} (other : k ≠ key) :
    (entries.filter (·.1 ≠ key)).lookup k = entries.lookup k := by
  induction entries with
  | nil => rfl
  | cons f rest ih =>
    by_cases here : f.1 = key
    · have passed : (k == f.1) = false := beq_eq_false_iff_ne.mpr (here ▸ other)
      rw [List.filter_cons_of_neg (by simpa using here), ih, List.lookup_cons, passed]
    · rw [List.filter_cons_of_pos (by simpa using here), List.lookup_cons, List.lookup_cons, ih]

theorem lookup_filter_self (entries : List (List String × FileEntry)) (key : List String) :
    (entries.filter (·.1 ≠ key)).lookup key = none := by
  refine List.lookup_eq_none_iff.mpr fun f hf => ?_
  have other : f.1 ≠ key := of_decide_eq_true (List.mem_filter.mp hf).2
  exact bne_iff_ne.mpr (Ne.symm other)

theorem lookup_of_free (free : d.entry? key = none) :
    key.isPrefixOf d.home = false ∧ d.entries.lookup key = none := by
  unfold entry? at free
  split at free
  · cases free
  · rename_i apart
    refine ⟨Bool.eq_false_iff.mpr apart, ?_⟩
    cases found : d.entries.lookup key with
    | none => rfl
    | some f =>
      rw [found] at free
      cases free

theorem filter_ne_of_free (free : d.entry? key = none) :
    d.entries.filter (·.1 ≠ key) = d.entries := by
  refine List.filter_eq_self.mpr fun f hf => decide_eq_true fun same => ?_
  have missed := List.lookup_eq_none_iff.mp (lookup_of_free free).2 f hf
  rw [same, bne_self_eq_false] at missed
  cases missed

@[simp] theorem home_put : (d.put key e).home = d.home := rfl

theorem put_stands (apart : key.isPrefixOf d.home = false) :
    entry? (d.put key e) key = some e := by
  have found : (d.put key e).entries.lookup key = some e := by
    rw [put, List.lookup_append, lookup_filter_self, Option.none_or, List.lookup_cons,
      beq_self_eq_true]
  unfold entry?
  rw [home_put, if_neg (Bool.eq_false_iff.mp apart), found]

theorem folder_iff : d.entry? k = some .folder ↔ k.isPrefixOf d.home = true ∨
    d.entries.lookup k = some .folder ∨
    d.entries.lookup k = none ∧ (d.entries.any fun f => isInside k f.1) = true := by
  unfold entry?
  by_cases around : k.isPrefixOf d.home = true
  · simp [around]
  · rw [if_neg around]
    cases d.entries.lookup k <;> simp [around]

/-- A folder is still there when something has been put elsewhere. -/
theorem folder_put (free : d.entry? key = none) (stands : d.entry? k = some .folder) :
    entry? (d.put key e) k = some .folder := by
  have other : k ≠ key := fun same => by
    rw [same, free] at stands
    cases stands
  have kept : (d.put key e).entries.lookup k = d.entries.lookup k := by
    have passed : (k == key) = false := beq_eq_false_iff_ne.mpr other
    rw [put, List.lookup_append, lookup_filter_ne other, List.lookup_cons, passed]
    exact Option.or_none
  have inside (h : (d.entries.any fun f => isInside k f.1) = true) :
      ((d.put key e).entries.any fun f => isInside k f.1) = true := by
    rw [put, filter_ne_of_free free, List.any_append, h, Bool.true_or]
  rw [folder_iff] at stands ⊢
  rw [home_put, kept]
  exact stands.imp id (Or.imp id (And.imp id inside))

/-! ## Paths -/

theorem follow_vacant {parts : List String} (leads : d.follow k parts = .vacant key) :
    d.entry? key = none ∧ ∀ text, (d.put key (.file text)).follow k parts = .file key text := by
  -- a path that ends at a vacant place goes through folders only, which the new file leaves alone
  fun_induction follow d k parts with
  | case1 => cases leads
  | case2 k part rest stays ih =>
    refine (ih leads).imp_right fun found text => ?_
    rw [follow, if_pos stays]
    exact found text
  | case3 k rest moves ih =>
    refine (ih leads).imp_right fun found text => ?_
    rw [follow, if_neg moves, if_pos rfl]
    exact found text
  | case4 k part rest moves forward there ih =>
    obtain ⟨free, found⟩ := ih leads
    refine ⟨free, fun text => ?_⟩
    rw [follow, if_neg moves, if_neg forward, folder_put free there]
    exact found text
  | case5 => cases leads
  | case6 => cases leads
  | case7 k part rest moves forward free last =>
    cases leads
    refine ⟨free, fun text => ?_⟩
    rw [follow, if_neg moves, if_neg forward, put_stands (lookup_of_free free).1]
    exact if_pos last
  | case8 => cases leads

theorem place_eq_follow (legal : '\x00' ∉ path.toList) (something : path ≠ "") :
    d.place path = d.follow (startOf d.home path) (pathParts path) := by
  rw [place, if_neg (by simpa using legal), if_neg something]

/-- A path that leads to a vacant place has been followed to its end. -/
theorem follow_of_vacant (leads : d.place path = .vacant key) :
    '\x00' ∉ path.toList ∧ path ≠ "" ∧
      d.follow (startOf d.home path) (pathParts path) = .vacant key := by
  rw [place] at leads
  split at leads
  · cases leads
  · rename_i legal
    split at leads
    · cases leads
    · rename_i something
      exact ⟨by simpa using legal, something, leads⟩

theorem place_put (leads : d.place path = .vacant key) (text : String) :
    (d.put key (.file text)).place path = .file key text := by
  obtain ⟨legal, something, follows⟩ := follow_of_vacant leads
  rw [place_eq_follow legal something, home_put]
  exact (follow_vacant follows).2 text

theorem free_of_vacant (leads : d.place path = .vacant key) : d.entry? key = none := by
  obtain ⟨-, -, follows⟩ := follow_of_vacant leads
  exact (follow_vacant follows).1

/-! ## Adding and removing -/

/-- The key of the file that adding text at the path would make. -/
def vacancy? (d : Folder) (path : String) : Option (List String) :=
  if path.toList.getLast? = some '/' then none
  else match d.place path with
    | .vacant key => some key
    | _ => none

theorem vacancy?_eq_some :
    d.vacancy? path = some key ↔ path.toList.getLast? ≠ some '/' ∧ d.place path = .vacant key := by
  rw [vacancy?]
  split
  · simp_all
  · cases d.place path <;> simp_all

theorem append_of_vacancy (vacant : d.vacancy? path = some key) (text : String) :
    d.append path text = .ok (d.put key (.file text)) := by
  obtain ⟨noSlash, leads⟩ := vacancy?_eq_some.mp vacant
  rw [append, if_neg noSlash, leads]

theorem append_put (vacant : d.vacancy? path = some key) (old text : String) :
    (d.put key (.file old)).append path text = .ok (d.put key (.file (old ++ text))) := by
  obtain ⟨noSlash, leads⟩ := vacancy?_eq_some.mp vacant
  rw [append, if_neg noSlash, place_put leads]
  simp only [put, List.filter_append, List.filter_filter, Bool.and_self]
  simp

theorem remove_put (vacant : d.vacancy? path = some key) (text : String) :
    (d.put key (.file text)).remove path = d := by
  obtain ⟨-, leads⟩ := vacancy?_eq_some.mp vacant
  have free := free_of_vacant leads
  rw [remove, place_put leads]
  simp only [put, filter_ne_of_free free, List.filter_append]
  simp

theorem holds_of_vacancy (vacant : d.vacancy? path = some key) : d.holds path = false := by
  obtain ⟨-, leads⟩ := vacancy?_eq_some.mp vacant
  rw [holds, leads]

theorem holds_put (vacant : d.vacancy? path = some key) (text : String) :
    (d.put key (.file text)).holds path = true := by
  obtain ⟨-, leads⟩ := vacancy?_eq_some.mp vacant
  rw [holds, place_put leads]

theorem text?_put (vacant : d.vacancy? path = some key) (text : String) :
    (d.put key (.file text)).text? path = some text := by
  obtain ⟨-, leads⟩ := vacancy?_eq_some.mp vacant
  rw [text?, place_put leads]

theorem text?_of_absent (absent : d.holds path = false) : d.text? path = none := by
  rw [holds] at absent
  rw [text?]
  cases leads : d.place path <;> simp_all

theorem remove_of_absent (absent : d.holds path = false) : d.remove path = d := by
  rw [holds] at absent
  rw [remove]
  cases leads : d.place path <;> simp_all

theorem append_of_homeless (absent : d.holds path = false) (homeless : d.vacancy? path = none)
    (text : String) : ∃ fault, d.append path text = .error fault := by
  rw [holds] at absent
  rw [vacancy?] at homeless
  rw [append]
  split
  · exact ⟨_, rfl⟩
  · rename_i noSlash
    rw [if_neg noSlash] at homeless
    cases leads : d.place path <;> simp_all

/-! ## Room for a file -/

/-- A part of a path that names something in a folder. -/
structure IsName (part : String) : Prop where
  moves : isIdlePart part = false
  forward : part ≠ ".."

/-- The path ends in a name, and what stands before the name leads to a folder. -/
structure HasRoom (d : Folder) (path : String) : Prop where
  legal : '\x00' ∉ path.toList
  named : ∃ front name, pathParts path = front ++ [name] ∧ IsName name ∧
    d.follow (startOf d.home path) front = .folder

theorem follow_append {front : List String} (there : d.follow k front = .folder)
    (rest : List String) : d.follow k (front ++ rest) = d.follow (resolve k front) rest := by
  fun_induction follow d k front with
  | case1 => rfl
  | case2 k part front stays ih =>
    rw [List.cons_append, follow, if_pos stays, ih there, resolve, if_pos stays]
  | case3 k front moves ih =>
    rw [List.cons_append, follow, if_neg moves, if_pos rfl, ih there, resolve, if_neg moves,
      if_pos rfl]
  | case4 k part front moves forward inner ih =>
    rw [List.cons_append, follow, if_neg moves, if_neg forward, inner, resolve, if_neg moves,
      if_neg forward]
    exact ih there
  | case5 => cases there
  | case6 => cases there
  | case7 => cases there
  | case8 => cases there

theorem follow_name {name : String} (named : IsName name) :
    d.follow k [name] = match d.entry? (k ++ [name]) with
      | some .folder => .folder
      | some (.file text) => .file (k ++ [name]) text
      | none => .vacant (k ++ [name]) := by
  rw [follow, if_neg (Bool.eq_false_iff.mp named.moves), if_neg named.forward]
  cases d.entry? (k ++ [name]) with
  | none => rfl
  | some e => cases e <;> rfl

theorem exists_name_of_vacant {parts : List String} (leads : d.follow k parts = .vacant key) :
    ∃ front name, parts = front ++ [name] ∧ IsName name ∧ d.follow k front = .folder := by
  fun_induction follow d k parts with
  | case1 => cases leads
  | case2 k part rest stays ih =>
    obtain ⟨front, name, rfl, named, there⟩ := ih leads
    exact ⟨part :: front, name, rfl, named, by rwa [follow, if_pos stays]⟩
  | case3 k rest moves ih =>
    obtain ⟨front, name, rfl, named, there⟩ := ih leads
    exact ⟨".." :: front, name, rfl, named, by rwa [follow, if_neg moves, if_pos rfl]⟩
  | case4 k part rest moves forward inner ih =>
    obtain ⟨front, name, rfl, named, there⟩ := ih leads
    exact ⟨part :: front, name, rfl, named, by rwa [follow, if_neg moves, if_neg forward, inner]⟩
  | case5 => cases leads
  | case6 => cases leads
  | case7 k part rest moves forward free last =>
    obtain rfl := List.isEmpty_iff.mp last
    exact ⟨[], part, rfl, ⟨Bool.eq_false_iff.mpr moves, forward⟩, rfl⟩
  | case8 => cases leads

/-- Where nothing stands, a file can be made exactly if there is room for one. -/
theorem hasRoom_iff (absent : d.holds path = false) :
    d.HasRoom path ↔ (d.vacancy? path).isSome = true := by
  simp only [Option.isSome_iff_exists, vacancy?_eq_some]
  constructor
  · rintro ⟨legal, front, name, parts, named, there⟩
    have last : (pathParts path).getLast? = some name := by rw [parts, List.getLast?_concat]
    have filled : name ≠ "" := by
      rintro rfl
      cases named.moves
    have noSlash : path.toList.getLast? ≠ some '/' := by
      intro ended
      rw [pathParts, List.getLast?_map, Text.getLast?_split_of_mark_last ended] at last
      exact filled (Option.some.inj last).symm
    have something : path ≠ "" := by
      rintro rfl
      exact filled (Option.some.inj last).symm
    have leads : d.place path = d.follow (resolve (startOf d.home path) front) [name] := by
      rw [place_eq_follow legal something, parts, follow_append there]
    rw [follow_name named] at leads
    cases stands : d.entry? (resolve (startOf d.home path) front ++ [name]) with
    | none => exact ⟨_, noSlash, by rw [leads, stands]⟩
    | some e =>
      rw [holds, leads, stands] at absent
      cases e <;> cases absent
  · rintro ⟨key, -, leads⟩
    obtain ⟨legal, -, follows⟩ := follow_of_vacant leads
    exact ⟨legal, exists_name_of_vacant follows⟩

end JobWatch.Folder
