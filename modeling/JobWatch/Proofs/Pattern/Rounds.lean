import JobWatch.Pattern.Search
import Mathlib.Tactic.Choose

/-!
# Rounds of a quantifier

To match a tree from some place on is to try the places where it may end, one after the other, until
one of them suits what comes after it. Which places these are does not hang on what comes after, and
none of them lies behind the beginning. It follows that the number of codes, which bounds the rounds
of a quantifier, cannot be seen in its results. The main statements are the two laws that a
quantifier goes by: one for a round that has to be made, one for a round that may be left out.
-/

namespace JobWatch.Pattern

/-! ## Places that are tried -/

/-- The codes that are still to be taken. -/
def Place.ahead (behind : Bool) (p : Place) : List Nat := if behind then p.past else p.rest

/-- The second place is reached from the first by taking codes, if any. -/
structure Onward (behind : Bool) (p q : Place) : Prop where
  whole : q.past.length + q.rest.length = p.past.length + p.rest.length
  ahead : (q.ahead behind).length ≤ (p.ahead behind).length

/-- What is matched tries some places in turn, and takes the first that suits what comes next. -/
structure Tries (behind : Bool) (p : Place) (m : Next → Option Place) (qs : List Place) : Prop where
  onward : ∀ q ∈ qs, Onward behind p q
  inTurn : ∀ next, m next = qs.findSome? next

/-- From every place on, some places are tried in turn. -/
def Searches (behind : Bool) (m : Next → Next) : Prop :=
  ∀ p, ∃ qs, Tries behind p (fun next => m next p) qs

variable {behind : Bool} {p q : Place} {m : Next → Option Place} {qs : List Place}

theorem Onward.refl (behind : Bool) (p : Place) : Onward behind p p := ⟨rfl, Nat.le_refl _⟩

theorem Onward.trans {r : Place} (h : Onward behind p q) (h' : Onward behind q r) :
    Onward behind p r :=
  ⟨h'.whole.trans h.whole, Nat.le_trans h'.ahead h.ahead⟩

/-- As many codes come after the position exactly if as many are still to be taken. -/
theorem Onward.rest_eq_iff (h : Onward behind p q) :
    q.rest.length = p.rest.length ↔ (q.ahead behind).length = (p.ahead behind).length := by
  have whole := h.whole
  unfold Place.ahead
  cases behind with
  | false => exact Iff.rfl
  | true =>
    simp only [if_true]
    omega

/-! ## Trying in turn -/

theorem tries_nothing : Tries behind p (fun _ => none) [] := ⟨by simp, fun _ => rfl⟩

theorem tries_place (h : Onward behind p q) : Tries behind p (fun next => next q) [q] :=
  ⟨by simpa using h, fun next => by simp⟩

theorem Tries.or {m' : Next → Option Place} {qs' : List Place} (h : Tries behind p m qs)
    (h' : Tries behind p m' qs') :
    Tries behind p (fun next => (m next).or (m' next)) (qs ++ qs') where
  onward q tried := (List.mem_append.mp tried).elim (h.onward q) (h'.onward q)
  inTurn next := by rw [h.inTurn, h'.inTurn, List.findSome?_append]

theorem Tries.andThen (h : Tries behind p m qs) {k : Next → Next} (each : Searches behind k) :
    ∃ rs, Tries behind p (fun next => m (k next)) rs := by
  choose rs tries using each
  refine ⟨qs.flatMap rs, ⟨fun r tried => ?_, fun next => ?_⟩⟩
  · obtain ⟨q, before, after⟩ := List.mem_flatMap.mp tried
    exact (h.onward q before).trans ((tries q).onward r after)
  · rw [h.inTurn]
    clear h
    induction qs with
    | nil => rfl
    | cons q qs ih =>
      rw [List.flatMap_cons, List.findSome?_append, ← (tries q).inTurn next, List.findSome?_cons,
        ih]
      cases k next q <;> rfl

theorem Tries.congr (h : Tries behind p m qs) {next next' : Next}
    (same : ∀ q, Onward behind p q → next q = next' q) : m next = m next' := by
  have among := h.onward
  rw [h.inTurn, h.inTurn]
  clear h
  induction qs with
  | nil => rfl
  | cons q qs ih =>
    rw [List.forall_mem_cons] at among
    rw [List.findSome?_cons, List.findSome?_cons, same q among.1, ih among.2]

theorem Tries.eq_none (h : Tries behind p m qs) {next : Next}
    (unsuited : ∀ q, Onward behind p q → next q = none) : m next = none := by
  rw [h.inTurn, List.findSome?_eq_none_iff]
  exact fun q tried => unsuited q (h.onward q tried)

/-- What captures have taken does not move a place. -/
theorem Tries.retake {taken : List (Option (List Nat))}
    (h : Tries behind { p with taken := taken } m qs) : Tries behind p m qs :=
  ⟨fun q tried => ⟨(h.onward q tried).whole, (h.onward q tried).ahead⟩, h.inTurn⟩

/-! ## Trees -/

theorem searches_skip (behind : Bool) : Searches behind fun next => next :=
  fun p => ⟨[p], tries_place (.refl behind p)⟩

theorem Searches.andThen {a b : Next → Next} (ha : Searches behind a) (hb : Searches behind b) :
    Searches behind fun next => a (b next) := by
  intro p
  obtain ⟨qs, h⟩ := ha p
  exact h.andThen hb

theorem searches_takeCode (behind : Bool) (test : Nat → Bool) :
    Searches behind (takeCode behind test) := by
  intro p
  obtain ⟨past, rest, taken⟩ := p
  cases behind with
  | false =>
    cases rest with
    | nil => exact ⟨[], tries_nothing⟩
    | cons c rest =>
      by_cases fits : test c = true
      · simp only [takeCode, Bool.false_eq_true, if_false, if_pos fits]
        refine ⟨_, tries_place ⟨?_, Nat.le_succ _⟩⟩
        simp only [List.length_cons]
        omega
      · simp only [takeCode, Bool.false_eq_true, if_false, if_neg fits]
        exact ⟨[], tries_nothing⟩
  | true =>
    cases past with
    | nil => exact ⟨[], tries_nothing⟩
    | cons c past =>
      by_cases fits : test c = true
      · simp only [takeCode, if_true, if_pos fits]
        refine ⟨_, tries_place ⟨?_, Nat.le_succ _⟩⟩
        simp only [List.length_cons]
        omega
      · simp only [takeCode, if_true, if_neg fits]
        exact ⟨[], tries_nothing⟩

theorem searches_takeCodes (f : Flags) (behind : Bool) (codes : List Nat) :
    Searches behind (takeCodes f behind codes) := by
  induction codes with
  | nil => exact searches_skip behind
  | cons c rest ih => exact (searches_takeCode behind _).andThen ih

/-- A condition on a place takes nothing. -/
theorem tries_if (holds : Bool) (h : Onward behind p q) :
    ∃ qs, Tries behind p (fun next => if holds then next q else none) qs := by
  cases holds with
  | false => exact ⟨[], tries_nothing⟩
  | true => exact ⟨[q], tries_place h⟩

section Rounds

variable {body : Next → Next}

theorem searches_times (bodied : Searches behind body) (first stop n : Nat) :
    Searches behind fun next => times body first stop next n := by
  induction n with
  | zero => exact searches_skip behind
  | succ n ih =>
    intro p
    obtain ⟨qs, round⟩ := bodied { p with taken := forget first stop p.taken }
    obtain ⟨rs, h⟩ := round.andThen ih
    exact ⟨rs, h.retake⟩

/-- What comes after a round that is made from `p` and may be left out: further rounds, if it has
taken codes. -/
def goOn (body : Next → Next) (greedy : Bool) (first stop : Nat) (next : Next) (codes : Nat)
    (most : Option Nat) (p : Place) : Next := fun q =>
  if q.rest.length = p.rest.length then none
  else repeated body greedy first stop next codes (most.map (· - 1)) q

theorem repeated_full (body : Next → Next) (greedy : Bool) (first stop : Nat) (next : Next)
    (codes : Nat) : repeated body greedy first stop next codes (some 0) = next := by
  cases codes <;> rfl

theorem repeated_eq_or (body : Next → Next) (greedy : Bool) (first stop : Nat) (next : Next)
    (codes : Nat) {most : Option Nat} (room : most ≠ some 0) (p : Place) :
    repeated body greedy first stop next (codes + 1) most p =
      let round := body (goOn body greedy first stop next codes most p)
        { p with taken := forget first stop p.taken }
      if greedy then round.or (next p) else (next p).or round := by
  simp only [repeated, if_neg room]
  rfl

theorem searches_goOn {greedy : Bool} {first stop codes : Nat} {most : Option Nat}
    (searches : Searches behind fun next =>
      repeated body greedy first stop next codes (most.map (· - 1))) (p : Place) :
    Searches behind fun next => goOn body greedy first stop next codes most p := by
  intro q
  by_cases idle : q.rest.length = p.rest.length
  · simp only [goOn, if_pos idle]
    exact ⟨[], tries_nothing⟩
  · simp only [goOn, if_neg idle]
    exact searches q

theorem searches_repeated (bodied : Searches behind body) (greedy : Bool)
    (first stop codes : Nat) (most : Option Nat) :
    Searches behind fun next => repeated body greedy first stop next codes most := by
  induction codes generalizing most with
  | zero => exact searches_skip behind
  | succ codes ih =>
    intro p
    by_cases full : most = some 0
    · simp only [full, repeated_full]
      exact searches_skip behind p
    · obtain ⟨_, inner⟩ := bodied { p with taken := forget first stop p.taken }
      obtain ⟨_, round⟩ := inner.andThen (searches_goOn (ih _) p)
      obtain ⟨_, leave⟩ := searches_skip behind p
      simp only [repeated_eq_or _ _ _ _ _ _ full]
      cases greedy with
      | true => exact ⟨_, round.retake.or leave⟩
      | false => exact ⟨_, leave.or round.retake⟩

end Rounds

/-- Every tree tries places in turn. -/
theorem searches_run (f : Flags) (names : List (List Nat × Nat)) (behind : Bool) (n : Node) :
    Searches behind (n.run f names behind) := by
  induction n generalizing behind with
  | empty => exact searches_skip behind
  | code c => exact searches_takeCode behind _
  | any => exact searches_takeCode behind _
  | oneOf negated members => exact searches_takeCode behind _
  | seq a b iha ihb =>
    cases behind with
    | false => exact (iha false).andThen (ihb false)
    | true => exact (ihb true).andThen (iha true)
  | alt a b iha ihb =>
    intro p
    obtain ⟨_, first⟩ := iha behind p
    obtain ⟨_, second⟩ := ihb behind p
    exact ⟨_, first.or second⟩
  | capture i body ih =>
    intro p
    obtain ⟨_, inner⟩ := ih behind p
    exact inner.andThen fun q => ⟨_, tries_place ⟨rfl, Nat.le_refl _⟩⟩
  | again i =>
    intro p
    simp only [Node.run]
    cases p.taken[i]?.join with
    | none => exact searches_skip behind p
    | some codes => exact searches_takeCodes f behind _ p
  | againNamed name =>
    intro p
    simp only [Node.run]
    cases ((names.find? (·.1 == name)).bind fun e => p.taken[e.2]?).join with
    | none => exact searches_skip behind p
    | some codes => exact searches_takeCodes f behind _ p
  | start => exact fun p => tries_if _ (.refl behind p)
  | finish => exact fun p => tries_if _ (.refl behind p)
  | boundary negated => exact fun p => tries_if _ (.refl behind p)
  | look back negated body ih =>
    intro p
    simp only [Node.run]
    cases body.run f names back some p with
    | none => exact tries_if negated (.refl behind p)
    | some q =>
      cases negated with
      | true => exact ⟨[], tries_nothing⟩
      | false => exact ⟨_, tries_place ⟨rfl, Nat.le_refl _⟩⟩
  | rounds least most greedy first stop body ih =>
    intro p
    obtain ⟨_, least⟩ := searches_times (ih behind) first stop least p
    exact least.andThen (searches_repeated (ih behind) greedy first stop _ _)

/-! ## The laws of quantifiers -/

section Laws

variable {body : Next → Next} {greedy : Bool} {first stop : Nat} {next : Next}

/-- More rounds than there are codes ahead change nothing. -/
theorem repeated_succ (bodied : Searches behind body) {codes : Nat}
    (enough : (p.ahead behind).length ≤ codes) (most : Option Nat) :
    repeated body greedy first stop next (codes + 1) most p =
      repeated body greedy first stop next codes most p := by
  induction codes generalizing p most with
  | zero =>
    by_cases full : most = some 0
    · rw [full, repeated_full, repeated_full]
    obtain ⟨_, round⟩ := bodied { p with taken := forget first stop p.taken }
    -- no code is ahead, so a further round takes none and fails
    have fails : body (goOn body greedy first stop next 0 most p)
        { p with taken := forget first stop p.taken } = none := by
      refine round.retake.eq_none fun q onward => if_pos (onward.rest_eq_iff.mpr ?_)
      have bound := onward.ahead
      omega
    rw [repeated_eq_or _ _ _ _ _ _ full, fails]
    cases greedy <;> simp [repeated]
  | succ codes ih =>
    by_cases full : most = some 0
    · rw [full, repeated_full, repeated_full]
    obtain ⟨_, round⟩ := bodied { p with taken := forget first stop p.taken }
    have same : body (goOn body greedy first stop next (codes + 1) most p)
          { p with taken := forget first stop p.taken } =
        body (goOn body greedy first stop next codes most p)
          { p with taken := forget first stop p.taken } := by
      refine round.retake.congr fun q onward => ?_
      unfold goOn
      by_cases idle : q.rest.length = p.rest.length
      · rw [if_pos idle, if_pos idle]
      · have fewer := onward.ahead
        have moved := mt onward.rest_eq_iff.mpr idle
        rw [if_neg idle, if_neg idle, ih (by omega)]
    rw [repeated_eq_or _ _ _ _ _ _ full, repeated_eq_or _ _ _ _ _ _ full, same]

variable {f : Flags} {names : List (List Nat × Nat)} {least : Nat} {most : Option Nat} {n : Node}

/-- A round that has to be made is made, whether or not it takes codes, and the others after it. -/
theorem run_rounds_succ :
    (Node.rounds (least + 1) most greedy first stop n).run f names behind next p =
      n.run f names behind
        ((Node.rounds least (most.map (· - 1)) greedy first stop n).run f names behind next)
        { p with taken := forget first stop p.taken } := by
  have fewer : (most.map (· - 1)).map (· - least) = most.map (· - (least + 1)) := by
    rw [Option.map_map]
    congr 1
    funext k
    simp only [Function.comp]
    omega
  obtain ⟨_, round⟩ := searches_run f names behind n { p with taken := forget first stop p.taken }
  simp only [Node.run, times, fewer]
  exact round.retake.congr fun q onward => by rw [onward.whole]

theorem run_rounds_full :
    (Node.rounds 0 (some 0) greedy first stop n).run f names behind next p = next p := by
  simp only [Node.run, times, Option.map_some, Nat.sub_zero, repeated_full]

/-- A round that may be left out fails if it takes no code. It is tried before what comes next if
the quantifier is greedy, and else after it. -/
theorem run_rounds_zero (room : most ≠ some 0) :
    (Node.rounds 0 most greedy first stop n).run f names behind next p =
      let round := n.run f names behind
        (fun q => if q.rest.length = p.rest.length then none
          else (Node.rounds 0 (most.map (· - 1)) greedy first stop n).run f names behind next q)
        { p with taken := forget first stop p.taken }
      if greedy then round.or (next p) else (next p).or round := by
  have bodied := searches_run f names behind n
  have enough : (p.ahead behind).length ≤ p.past.length + p.rest.length := by
    unfold Place.ahead
    cases behind <;> simp
  obtain ⟨_, round⟩ := bodied { p with taken := forget first stop p.taken }
  have same : n.run f names behind
        (goOn (n.run f names behind) greedy first stop next (p.past.length + p.rest.length) most p)
        { p with taken := forget first stop p.taken } =
      n.run f names behind
        (fun q => if q.rest.length = p.rest.length then none
          else (Node.rounds 0 (most.map (· - 1)) greedy first stop n).run f names behind next q)
        { p with taken := forget first stop p.taken } := by
    refine round.retake.congr fun q onward => ?_
    simp only [goOn, Node.run, times, Nat.sub_zero, Option.map_id', onward.whole]
  simp only [← same]
  simp only [Node.run, times, Nat.sub_zero, Option.map_id']
  rw [← repeated_succ bodied enough, repeated_eq_or _ _ _ _ _ _ room]

end Laws

end JobWatch.Pattern
