import JobWatch.Pattern.Search

/-!
# What a search hangs on

Whether a pattern occurs in a text is the same whether one occurrence is asked for or all of them:
no node of the tree looks at that flag.
-/

namespace JobWatch.Pattern

theorem takeCodes_everywhere (f : Flags) (all behind : Bool) (codes : List Nat) (next : Next) :
    takeCodes { f with everywhere := all } behind codes next = takeCodes f behind codes next := by
  induction codes with
  | nil => rfl
  | cons c rest ih =>
    rw [takeCodes, ih, takeCodes]
    rfl

theorem run_everywhere (f : Flags) (all : Bool) (names : List (List Nat × Nat)) (n : Node)
    (behind : Bool) (next : Next) :
    n.run { f with everywhere := all } names behind next = n.run f names behind next := by
  induction n generalizing behind next with
  | empty => rfl
  | code c => rfl
  | any => rfl
  | oneOf negated members => rfl
  | seq a b iha ihb => simp only [Node.run, iha, ihb]
  | alt a b iha ihb => simp only [Node.run, iha, ihb]
  | capture i body ih => simp only [Node.run, ih]
  | again i => simp only [Node.run, takeCodes_everywhere]
  | againNamed name => simp only [Node.run, takeCodes_everywhere]
  | start => rfl
  | finish => rfl
  | boundary negated => rfl
  | look back negated body ih => simp only [Node.run, ih]
  | rounds least most greedy first stop body ih =>
    have same : body.run { f with everywhere := all } names behind = body.run f names behind :=
      funext (ih behind)
    simp only [Node.run, same]

/-- The same pattern, asked for all its occurrences or for one. -/
def askedFor (p : Pattern) (all : Bool) : Pattern :=
  { p with flags := { p.flags with everywhere := all } }

theorem matchesAt_askedFor (p : Pattern) (all : Bool) (past rest : List Nat) :
    (p.askedFor all).matchesAt past rest = p.matchesAt past rest := by
  simp only [matchesAt, askedFor, run_everywhere]

theorem matchesFrom_askedFor (p : Pattern) (all : Bool) (past rest : List Nat) :
    (p.askedFor all).matchesFrom past rest = p.matchesFrom past rest := by
  induction rest generalizing past with
  | nil => rw [matchesFrom, matchesFrom, matchesAt_askedFor]
  | cons c rest ih => rw [matchesFrom, matchesFrom, matchesAt_askedFor, ih]

theorem occursIn_askedFor (p : Pattern) (all : Bool) (text : String) :
    (p.askedFor all).occursIn text = p.occursIn text := by
  simp only [occursIn, matchesAt_askedFor, matchesFrom_askedFor]
  rfl

end JobWatch.Pattern
