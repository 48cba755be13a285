import JobWatch.Proofs.Command.Acceptance
import JobWatch.Proofs.Text.Pieces
import JobWatch.Proofs.Text.Search

/-!
# How a command line is laid out

A command line that can be read is a sequence of groups: positional words and options, and an
option is written as one token or as two. What is read from it is the words in their order and the
options in theirs, and of the options with one name only the last counts. So neither the spelling
of an option nor its place matters, as long as the words stay in order, and the options of each
name.
-/

namespace JobWatch.Command

/-! ## Tokens -/

section Tokens

variable {token name value : String}

theorem isOptionLike_iff : isOptionLike token = true ↔ ['-', '-'] <+: token.toList :=
  Text.startsWith_iff

theorem isOptionLike_dashes (body : String) : isOptionLike ("--" ++ body) = true := by
  rw [isOptionLike_iff, String.toList_append]
  exact List.prefix_append _ _

theorem Token.ofString_of_plain (plain : isOptionLike token = false) : ofString token = word := by
  unfold ofString
  split
  · rename_i body same
    have like : isOptionLike token = true := isOptionLike_iff.mpr ⟨body, same.symm⟩
    rw [plain] at like
    cases like
  · rfl

theorem Token.ofString_dashes (body : String) :
    ofString ("--" ++ body) = match Text.splitFirst '=' body.toList with
      | some (name, value) => assigned (String.ofList name) (String.ofList value)
      | none => option (String.ofList body.toList) := by
  rw [ofString, String.toList_append]
  rfl

theorem Token.ofString_option (closed : '=' ∉ name.toList) :
    ofString ("--" ++ name) = option name := by
  rw [ofString_dashes, Text.splitFirst_eq_none_iff.mpr closed, String.ofList_toList]

theorem Token.ofString_assigned (closed : '=' ∉ name.toList) (value : String) :
    ofString ("--" ++ name ++ "=" ++ value) = assigned name value := by
  have halves : Text.splitFirst '=' (name ++ "=" ++ value).toList
      = some (name.toList, value.toList) := by
    rw [Text.splitFirst_eq_some_iff]
    exact ⟨closed, by simp⟩
  have behind : "--" ++ name ++ "=" ++ value = "--" ++ (name ++ "=" ++ value) := by
    simp only [String.append_assoc]
  rw [behind, ofString_dashes, halves]
  simp

/-- What a token is says how it is written. -/
theorem Token.spelling (token : String) :
    match ofString token with
    | word => isOptionLike token = false
    | option name => '=' ∉ name.toList ∧ token = "--" ++ name
    | assigned name value => '=' ∉ name.toList ∧ token = "--" ++ name ++ "=" ++ value := by
  cases like : isOptionLike token with
  | false => simp [ofString_of_plain like]
  | true =>
    obtain ⟨body, same⟩ := isOptionLike_iff.mp like
    obtain rfl : token = "--" ++ String.ofList body := by
      rw [← String.toList_inj, ← same]
      simp
    rw [ofString_dashes, String.toList_ofList]
    cases halves : Text.splitFirst '=' body with
    | none => simpa using Text.splitFirst_eq_none_iff.mp halves
    | some halves' =>
      obtain ⟨name, value⟩ := halves'
      obtain ⟨closed, rfl⟩ := Text.splitFirst_eq_some_iff.mp halves
      refine ⟨by simpa using closed, ?_⟩
      rw [← String.toList_inj]
      simp

end Tokens

/-! ## Groups -/

/-- A positional word, or an option with its value in one token or in two. -/
inductive Group where
  | word (text : String) (plain : isOptionLike text = false)
  | joined (name value : String) (closed : '=' ∉ name.toList)
  | apart (name value : String) (closed : '=' ∉ name.toList) (plain : isOptionLike value = false)
deriving DecidableEq

namespace Group

def tokens : Group → List String
  | word text _ => [text]
  | joined name value _ => ["--" ++ name ++ "=" ++ value]
  | apart name value _ _ => ["--" ++ name, value]

/-- The name of an option; words have none. -/
def name? : Group → Option String
  | word _ _ => none
  | joined name _ _ => some name
  | apart name _ _ _ => some name

/-- What is read from a group in front of a command line. -/
def onto : Group → Scan → Scan
  | word text _ => Scan.word text
  | joined name value _ => Scan.option name value
  | apart name value _ _ => Scan.option name value

end Group

/-- The groups written as a command line. -/
def line (gs : List Group) : List String := gs.flatMap Group.tokens

/-- What is read from the groups. -/
def content (gs : List Group) : Scan := gs.foldr Group.onto ⟨[], []⟩

theorem scan_tokens (g : Group) (rest : List String) :
    scan (g.tokens ++ rest) = (scan rest).map g.onto := by
  cases g with
  | word text plain =>
    rw [Group.tokens, List.singleton_append, scan, Token.ofString_of_plain plain]
    rfl
  | joined name value closed =>
    rw [Group.tokens, List.singleton_append, scan, Token.ofString_assigned closed]
    rfl
  | apart name value closed plain =>
    simp only [Group.tokens, List.cons_append, List.nil_append, scan, Token.ofString_option closed,
      plain]
    rfl

theorem scan_line (gs : List Group) : scan (line gs) = .ok (content gs) := by
  induction gs with
  | nil => rfl
  | cons g gs ih =>
    rw [line, List.flatMap_cons, scan_tokens, ← line, ih]
    rfl

theorem scan_of_map {argv : List String} {f : Scan → Scan} {s : Scan}
    (read : (scan argv).map f = .ok s) : ∃ s', scan argv = .ok s' := by
  cases later : scan argv with
  | error fault =>
    rw [later] at read
    cases read
  | ok s' => exact ⟨s', rfl⟩

/-- What can be read is a sequence of groups. -/
theorem exists_groups {argv : List String} {s : Scan} (read : scan argv = .ok s) :
    ∃ gs, line gs = argv := by
  fun_induction scan argv generalizing s with
  | case1 => exact ⟨[], rfl⟩
  | case2 token rest kind ih =>
    have plain := Token.spelling token
    rw [kind] at plain
    obtain ⟨s', later⟩ := scan_of_map read
    obtain ⟨gs, rfl⟩ := ih later
    exact ⟨.word token plain :: gs, rfl⟩
  | case3 token rest name value kind ih =>
    have spelled := Token.spelling token
    rw [kind] at spelled
    obtain ⟨closed, rfl⟩ := spelled
    obtain ⟨s', later⟩ := scan_of_map read
    obtain ⟨gs, rfl⟩ := ih later
    exact ⟨.joined name value closed :: gs, rfl⟩
  | case4 => cases read
  | case5 => cases read
  | case6 token name kind value rest plain ih =>
    have spelled := Token.spelling token
    rw [kind] at spelled
    obtain ⟨closed, rfl⟩ := spelled
    obtain ⟨s', later⟩ := scan_of_map read
    obtain ⟨gs, rfl⟩ := ih later
    exact ⟨.apart name value closed (Bool.eq_false_iff.mpr plain) :: gs, rfl⟩

/-- Two rests that begin like options are interchangeable behind anything if they are read
alike: neither ends an option that lacks its value. -/
theorem scan_behind {first first' : String} {rest rest' : List String}
    (like : isOptionLike first = true) (like' : isOptionLike first' = true)
    (alike : scan (first :: rest) = scan (first' :: rest')) (before : List String) :
    scan (before ++ first :: rest) = scan (before ++ first' :: rest') := by
  induction before using scan.induct with
  | case1 => exact alike
  | case2 token before kind ih => simp only [List.cons_append, scan, kind, ih]
  | case3 token before name value kind ih => simp only [List.cons_append, scan, kind, ih]
  -- an option in want of a value finds none in either rest
  | case4 token name kind =>
    simp only [List.cons_append, List.nil_append, scan, kind, if_pos like, if_pos like']
  | case5 token name kind value before valueLike =>
    simp only [List.cons_append, scan, kind, if_pos valueLike]
  | case6 token name kind value before plain ih =>
    simp only [List.cons_append, scan, kind, if_neg plain, ih]

/-! ## What counts of the groups -/

/-- An option behind counts before one in front. -/
theorem Scan.get?_option (name value : String) (s : Scan) (key : String) :
    (Scan.option name value s).get? key =
      (s.get? key).or (if name = key then some value else none) := by
  rw [get?, get?, Scan.option, List.reverse_cons, List.find?_append, Option.map_or]
  by_cases here : name = key <;> simp [here]

namespace Group

/-- The value that an option gives to a name. -/
def given? (g : Group) (key : String) : Option String :=
  match g with
  | word _ _ => none
  | joined name value _ => if name = key then some value else none
  | apart name value _ _ => if name = key then some value else none

theorem get?_onto (g : Group) (s : Scan) (key : String) :
    (g.onto s).get? key = (s.get? key).or (g.given? key) := by
  cases g with
  | word text plain => exact Option.or_none.symm
  | joined name value closed => exact Scan.get?_option name value s key
  | apart name value closed plain => exact Scan.get?_option name value s key

theorem isSome_given? (g : Group) (key : String) :
    (g.given? key).isSome = true ↔ g.name? = some key := by
  cases g <;> simp [given?, name?]

theorem given?_eq_none {g : Group} {key : String} (other : g.name? ≠ some key) :
    g.given? key = none := by
  rw [← Option.not_isSome_iff_eq_none, isSome_given?]
  exact other

theorem words_onto {g : Group} (option : g.name? ≠ none) (s : Scan) :
    (g.onto s).words = s.words := by
  cases g with
  | word => exact absurd rfl option
  | joined => rfl
  | apart => rfl

end Group

theorem content_cons (g : Group) (gs : List Group) : content (g :: gs) = g.onto (content gs) := rfl

theorem words_content_append (gs gs' : List Group) :
    (content (gs ++ gs')).words = (content gs).words ++ (content gs').words := by
  induction gs with
  | nil => rfl
  | cons g gs ih =>
    cases g with
    | word text plain => exact congrArg (text :: ·) ih
    | joined => exact ih
    | apart => exact ih

theorem get?_content_append (gs gs' : List Group) (key : String) :
    (content (gs ++ gs')).get? key =
      ((content gs').get? key).or ((content gs).get? key) := by
  induction gs with
  | nil => exact Option.or_none.symm
  | cons g gs ih =>
    rw [List.cons_append, content_cons, content_cons, Group.get?_onto, Group.get?_onto, ih,
      Option.or_assoc]

theorem agrees_behind {gs gs' : List Group} (h : (content gs).Agrees (content gs'))
    (before : List Group) : (content (before ++ gs)).Agrees (content (before ++ gs')) where
  words := by rw [words_content_append, words_content_append, h.words]
  values key := by rw [get?_content_append, get?_content_append, h.values]

/-- The groups without a name stand in the same order, and so do those of each name. -/
def Rearranged (gs gs' : List Group) : Prop :=
  ∀ key, gs'.filter (·.name? = key) = gs.filter (·.name? = key)

/-- Only the names that occur matter. -/
theorem rearranged_iff {gs gs' : List Group} :
    Rearranged gs gs' ↔
      ∀ key ∈ (gs ++ gs').map Group.name?,
        gs'.filter (·.name? = key) = gs.filter (·.name? = key) := by
  constructor
  · intro h key _
    exact h key
  · intro h key
    by_cases listed : key ∈ (gs ++ gs').map Group.name?
    · exact h key listed
    · have absent : ∀ g ∈ gs ++ gs', ¬decide (g.name? = key) = true := by
        intro g member named
        exact listed (List.mem_map.mpr ⟨g, member, of_decide_eq_true named⟩)
      rw [List.filter_eq_nil_iff.mpr fun g member => absent g (List.mem_append_right gs member),
        List.filter_eq_nil_iff.mpr fun g member => absent g (List.mem_append_left gs' member)]

instance (gs gs' : List Group) : Decidable (Rearranged gs gs') :=
  decidable_of_iff _ rearranged_iff.symm

theorem get?_content_filter (gs : List Group) (key : String) :
    (content (gs.filter (·.name? = some key))).get? key = (content gs).get? key := by
  induction gs with
  | nil => rfl
  | cons g gs ih =>
    rw [content_cons, Group.get?_onto, ← ih]
    by_cases here : g.name? = some key
    · rw [List.filter_cons_of_pos (by simpa using here), content_cons, Group.get?_onto]
    · rw [List.filter_cons_of_neg (by simpa using here), Group.given?_eq_none here, Option.or_none]

theorem words_content_filter (gs : List Group) :
    (content (gs.filter (·.name? = none))).words = (content gs).words := by
  induction gs with
  | nil => rfl
  | cons g gs ih =>
    cases g with
    | word text plain => exact congrArg (text :: ·) ih
    | joined => exact ih
    | apart => exact ih

theorem Rearranged.agrees {gs gs' : List Group} (h : Rearranged gs gs') :
    (content gs).Agrees (content gs') where
  words := by rw [← words_content_filter gs', h none, words_content_filter]
  values key := by rw [← get?_content_filter gs', h (some key), get?_content_filter]

theorem isSome_get?_content {g : Group} {gs : List Group} {key : String} (listed : g ∈ gs)
    (named : g.name? = some key) : ((content gs).get? key).isSome = true := by
  induction gs with
  | nil => cases listed
  | cons h gs ih =>
    rw [content_cons, Group.get?_onto, Option.isSome_or, Bool.or_eq_true]
    cases listed with
    | head => exact .inr ((Group.isSome_given? g key).mpr named)
    | tail _ listed => exact .inl (ih listed)

/-- An option does not count in front of another with its name. -/
theorem agrees_without {g g' : Group} {gs : List Group} (option : g.name? ≠ none)
    (later : g' ∈ gs) (same : g'.name? = g.name?) :
    (content (g :: gs)).Agrees (content gs) where
  words := (Group.words_onto option _).symm
  values key := by
    rw [content_cons, Group.get?_onto]
    by_cases here : g.name? = some key
    · rw [Option.or_of_isSome (isSome_get?_content later (same.trans here))]
    · rw [Group.given?_eq_none here, Option.or_none]

/-! ### One option exchanged for others of its name -/

/-- All of the groups are options with one name. -/
def AllNamed (key : String) (gs : List Group) : Prop := ∀ g ∈ gs, g.name? = some key

section Exchange

variable {key : String} {gs gs' : List Group}

theorem allNamed_of_given? {g : Group} {value : String} (given : g.given? key = some value) :
    AllNamed key [g] :=
  List.forall_mem_singleton.mpr ((g.isSome_given? key).mp (by rw [given]; rfl))

theorem AllNamed.words_content (named : AllNamed key gs) : (content gs).words = [] := by
  induction gs with
  | nil => rfl
  | cons g gs ih =>
    obtain ⟨here, later⟩ := List.forall_mem_cons.mp named
    rw [content_cons, Group.words_onto (by rw [here]; nofun), ih later]

theorem AllNamed.get?_content (named : AllNamed key gs) {name : String} (other : name ≠ key) :
    (content gs).get? name = none := by
  induction gs with
  | nil => rfl
  | cons g gs ih =>
    obtain ⟨here, later⟩ := List.forall_mem_cons.mp named
    have different : g.name? ≠ some name := by
      rw [here]
      exact fun same => other (Option.some.inj same).symm
    rw [content_cons, Group.get?_onto, Group.given?_eq_none different, ih later, Option.or_none]

theorem AllNamed.agreesBut (named : AllNamed key gs) (named' : AllNamed key gs')
    (before after : List Group) :
    (content (before ++ gs ++ after)).AgreesBut key (content (before ++ gs' ++ after)) where
  words := by simp only [words_content_append, named.words_content, named'.words_content]
  values name other := by
    simp only [get?_content_append, named.get?_content other, named'.get?_content other]

/-- An option counts, or what stands behind it does whatever stands in its place. -/
theorem counts_or_not {g : Group} {value : String} (given : g.given? key = some value)
    (before after : List Group) :
    (content (before ++ [g] ++ after)).get? key = some value ∨
      ∀ gs, (content (before ++ gs ++ after)).get? key =
        (content (before ++ [g] ++ after)).get? key := by
  simp only [get?_content_append, content_cons, Group.get?_onto, given]
  cases (content after).get? key with
  | none => exact .inl rfl
  | some later => exact .inr fun _ => rfl

end Exchange

/-! ## Independence of the layout -/

theorem parse_line (url : Option String) (gs : List Group) :
    parse url (line gs) = interpret url (content gs) := by
  rw [parse, scan_line]
  rfl

theorem parse_line_of_agrees {url : Option String} {gs gs' : List Group} {a : Args}
    (h : (content gs).Agrees (content gs')) (accepted : parse url (line gs) = .ok a) :
    parse url (line gs') = .ok a := by
  rw [parse_line] at accepted ⊢
  exact h.interpret accepted

/-- An option means the same in two tokens and in one, and if it is wrong it is wrong in the same
way. The order of a command line that is accepted does not matter as long as the words stay in
order, and the options of each name; of these the last counts. -/
theorem arguments_independent_of_layout (url : Option String) :
    (∀ before after name value, '=' ∉ name.toList → isOptionLike value = false →
      parse url (before ++ ["--" ++ name, value] ++ after) =
        parse url (before ++ ["--" ++ name ++ "=" ++ value] ++ after)) ∧
    ∀ argv a, parse url argv = .ok a →
      (∃ gs, line gs = argv) ∧
      (∀ gs gs', line gs = argv → Rearranged gs gs' → parse url (line gs') = .ok a) ∧
      ∀ before g between g' after, line (before ++ g :: between ++ g' :: after) = argv →
        g.name? ≠ none → g'.name? = g.name? →
        parse url (line (before ++ between ++ g' :: after)) = .ok a := by
  constructor
  · intro before after name value closed plain
    have alike : scan (("--" ++ name) :: value :: after) =
        scan (("--" ++ name ++ "=" ++ value) :: after) :=
      (scan_tokens (.apart name value closed plain) after).trans
        (scan_tokens (.joined name value closed) after).symm
    have like' : isOptionLike ("--" ++ name ++ "=" ++ value) = true := by
      rw [String.append_assoc, String.append_assoc]
      exact isOptionLike_dashes _
    have read := scan_behind (isOptionLike_dashes name) like' alike before
    rw [parse, parse, List.append_assoc, List.append_assoc]
    exact congrArg (·.bind (interpret url)) read
  · intro argv a accepted
    refine ⟨?_, ?_, ?_⟩
    · obtain ⟨s, read, _⟩ := exists_scan accepted
      exact exists_groups read
    · rintro gs gs' rfl rearranged
      exact parse_line_of_agrees rearranged.agrees accepted
    · rintro before g between g' after rfl option same
      rw [List.append_assoc, List.cons_append] at accepted
      rw [List.append_assoc]
      have listed : g' ∈ between ++ g' :: after := List.mem_append_right _ List.mem_cons_self
      exact parse_line_of_agrees (agrees_behind (agrees_without option listed same) before) accepted

theorem arguments_independent_of_layout_of_repeated_sleep :
    parse none ["status", "--sleep", "5", "a.json", "--prefix=p=q", "--sleep=7"] =
        parse none ["status", "--sleep=5", "a.json", "--prefix=p=q", "--sleep=7"] ∧
      ∃ a, parse none ["status", "--sleep", "5", "a.json", "--prefix=p=q", "--sleep=7"] = .ok a ∧
        parse none ["--prefix=p=q", "status", "--sleep", "5", "--sleep=7", "a.json"] = .ok a ∧
        parse none ["status", "a.json", "--prefix=p=q", "--sleep=7"] = .ok a := by
  obtain ⟨respelled, reordered⟩ := arguments_independent_of_layout none
  refine ⟨respelled ["status"] ["a.json", "--prefix=p=q", "--sleep=7"] "sleep" "5"
    (by decide) (by decide), ?_⟩
  let status : Group := .word "status" (by decide)
  let early : Group := .apart "sleep" "5" (by decide) (by decide)
  let path : Group := .word "a.json" (by decide)
  let lead : Group := .joined "prefix" "p=q" (by decide)
  let late : Group := .joined "sleep" "7" (by decide)
  have ok : (parse none (line [status, early, path, lead, late])).isOk = true := by
    decide +kernel
  cases accepted : parse none (line [status, early, path, lead, late]) with
  | error fault =>
    rw [accepted] at ok
    cases ok
  | ok a =>
    obtain ⟨-, rearranged, dropped⟩ := reordered _ a accepted
    refine ⟨a, accepted, ?_, ?_⟩
    · exact rearranged [status, early, path, lead, late] [lead, status, early, late, path] rfl
        (by decide)
    · exact dropped [status] early [path, lead] late [] rfl (by decide) rfl

end JobWatch.Command
