import JobWatch.Sleeps
import Mathlib.Data.List.Basic

/-!
# What happens to sleeps

Sleeps start, signals are raised, time passes and timers go off, in any order. Here stands what
each of these moves leaves alone, and what survives all of them.
-/

namespace JobWatch.Sleeps

/-- What can happen in a dormitory. -/
inductive Action where
  | start (id : String) (ms : Binary64) (signal : Option String)
  | abort (name : String)
  /-- Time passes, and every timer due by then goes off. -/
  | advance (ms : Nat)
  /-- Time passes, and every timer due before then goes off. Those due at that very moment have
  yet to. -/
  | approach (ms : Nat)
  /-- The timer of a sleep goes off if it is due by now. -/
  | goOff (place : Nat)
deriving Repr

namespace Action

/-- The action raises the signal. -/
def raises (signal : Option String) : Action → Bool
  | abort name => signal = some name
  | _ => false

/-- The clock after the action. -/
def clock (now : Nat) : Action → Nat
  | advance ms => now + ms
  | approach ms => now + ms
  | _ => now

end Action

namespace Dormitory

def approach (d : Dormitory) (ms : Nat) : Dormitory × List Sight :=
  let (later, sights) := d.runBefore (d.now + ms) d.timers.length
  ({ later with now := d.now + ms }, sights)

def ring (d : Dormitory) (place : Nat) : Dormitory × List Sight :=
  match d.timers.find? fun t => t.place = place with
  | some t => if t.due ≤ d.now then d.goOff t else (d, [])
  | none => (d, [])

def step (d : Dormitory) : Action → Dormitory × List Sight
  | .start id ms signal => d.start id ms signal
  | .abort name => d.abort name
  | .advance ms => d.advance ms
  | .approach ms => d.approach ms
  | .goOff place => d.ring place

def after (d : Dormitory) : List Action → Dormitory
  | [] => d
  | a :: rest => (d.step a).1.after rest

/-- What is seen of some actions. -/
def seen (d : Dormitory) : List Action → List Sight
  | [] => []
  | a :: rest => (d.step a).2 ++ (d.step a).1.seen rest

/-! ## The next timer -/

theorem mem_of_nextTimer? {timers : List Timer} {t : Timer} (next : nextTimer? timers = some t) :
    t ∈ timers ∧ ∀ u ∈ timers, t.due ≤ u.due := by
  induction timers generalizing t with
  | nil => cases next
  | cons first rest ih =>
    rw [nextTimer?] at next
    cases later : nextTimer? rest with
    | none =>
      rw [later] at next
      cases next
      have none : rest = [] := by
        cases rest with
        | nil => rfl
        | cons second rest =>
          rw [nextTimer?] at later
          split at later
          · split at later <;> cases later
          · cases later
      simp [none]
    | some u =>
      obtain ⟨listed, least⟩ := ih later
      rw [later] at next
      by_cases sooner : first.due ≤ u.due
      · simp only [if_pos sooner, Option.some.injEq] at next
        subst next
        refine ⟨List.mem_cons_self, fun v listed' => ?_⟩
        rcases List.mem_cons.mp listed' with rfl | listed'
        · exact Nat.le_refl _
        · exact Nat.le_trans sooner (least v listed')
      · simp only [if_neg sooner, Option.some.injEq] at next
        subst next
        refine ⟨List.mem_cons_of_mem _ listed, fun v listed' => ?_⟩
        rcases List.mem_cons.mp listed' with rfl | listed'
        · omega
        · exact least v listed'

theorem nextTimer?_isSome {timers : List Timer} {t : Timer} (listed : t ∈ timers) :
    ∃ u, nextTimer? timers = some u := by
  cases timers with
  | nil => cases listed
  | cons first rest =>
    rw [nextTimer?]
    cases nextTimer? rest with
    | none => exact ⟨first, rfl⟩
    | some u =>
      by_cases sooner : first.due ≤ u.due
      · exact ⟨first, if_pos sooner⟩
      · exact ⟨u, if_neg sooner⟩

/-! ## What does not concern a sleep -/

/-- Nothing that concerns the sleep at a place differs between two dormitories: neither itself nor
its timers and listeners. -/
structure Untouched (place : Nat) (d d' : Dormitory) : Prop where
  sleep : d'.sleeps[place]? = d.sleeps[place]?
  timers : d'.timers.filter (fun t => t.place = place) =
    d.timers.filter fun t => t.place = place
  listeners : d'.listeners.filter (fun l => l.place = place) =
    d.listeners.filter fun l => l.place = place

variable {d d' d'' : Dormitory} {place other : Nat}

theorem Untouched.refl (place : Nat) (d : Dormitory) : Untouched place d d := ⟨rfl, rfl, rfl⟩

theorem Untouched.trans (h : Untouched place d d') (h' : Untouched place d' d'') :
    Untouched place d d'' :=
  ⟨h'.sleep.trans h.sleep, h'.timers.trans h.timers, h'.listeners.trans h.listeners⟩

/-- An ending leaves everything as it is but the list of sleeps. -/
theorem settle_eq (d : Dormitory) (place : Nat) (status : Status) :
    (d.settle place status).1 = { d with sleeps := (d.settle place status).1.sleeps } := by
  unfold settle
  cases d.sleeps[place]? with
  | none => rfl
  | some s =>
    dsimp only
    split <;> rfl

theorem settle_now (d : Dormitory) (place : Nat) (status : Status) :
    (d.settle place status).1.now = d.now := by rw [settle_eq]

theorem settle_raised (d : Dormitory) (place : Nat) (status : Status) :
    (d.settle place status).1.raised = d.raised := by rw [settle_eq]

theorem settle_pending {s : Sleep} (found : d.sleeps[place]? = some s)
    (pending : s.status = .pending) (status : Status) :
    d.settle place status =
      ({ d with sleeps := d.sleeps.set place { s with status, since := d.now } },
        [.settled s.id d.now]) := by
  simp only [settle, found, if_pos pending]

theorem settle_ended {s : Sleep} (found : d.sleeps[place]? = some s)
    (ended : s.status ≠ .pending) (status : Status) : d.settle place status = (d, []) := by
  simp only [settle, found, if_neg ended]

theorem untouched_settle (ne : other ≠ place) (status : Status) :
    Untouched place d (d.settle other status).1 := by
  rw [settle_eq]
  refine ⟨?_, rfl, rfl⟩
  unfold settle
  cases found : d.sleeps[other]? with
  | none => rfl
  | some s =>
    dsimp only
    split
    · exact List.getElem?_set_ne ne
    · rfl

theorem untouched_clearTimer (ne : other ≠ place) : Untouched place d (d.clearTimer other) := by
  refine ⟨rfl, ?_, rfl⟩
  rw [clearTimer, List.filter_filter]
  refine List.filter_congr fun t _ => ?_
  by_cases own : t.place = place
  · simp [own, ne.symm]
  · simp [own]

theorem untouched_stopListening (ne : other ≠ place) :
    Untouched place d (d.stopListening other) := by
  refine ⟨rfl, rfl, ?_⟩
  rw [stopListening, List.filter_filter]
  refine List.filter_congr fun l _ => ?_
  by_cases own : l.place = place
  · simp [own, ne.symm]
  · simp [own]

theorem untouched_goOff {t : Timer} (ne : t.place ≠ place) : Untouched place d (d.goOff t).1 := by
  have start : Untouched place d (d.wake t.due) := ⟨rfl, rfl, rfl⟩
  exact ((start.trans (untouched_clearTimer ne)).trans (untouched_stopListening ne)).trans
    (untouched_settle ne .done)

theorem goOff_now (d : Dormitory) (t : Timer) : (d.goOff t).1.now = max d.now t.due :=
  settle_now _ _ _

theorem goOff_raised (d : Dormitory) (t : Timer) : (d.goOff t).1.raised = d.raised :=
  settle_raised _ _ _

theorem goOff_timers (d : Dormitory) (t : Timer) :
    (d.goOff t).1.timers = d.timers.filter fun u => u.place ≠ t.place := by
  rw [goOff, settle_eq]
  rfl

theorem untouched_abortAll {places : List Nat} (absent : place ∉ places) :
    Untouched place d (d.abortAll places).1 := by
  induction places generalizing d with
  | nil => exact .refl place d
  | cons first rest ih =>
    have ne : first ≠ place := fun same => absent (same ▸ List.mem_cons_self)
    exact ((untouched_clearTimer ne).trans (untouched_settle ne .aborted)).trans
      (ih fun listed => absent (List.mem_cons_of_mem _ listed))

theorem abortAll_clock (d : Dormitory) (places : List Nat) :
    (d.abortAll places).1.now = d.now ∧ (d.abortAll places).1.raised = d.raised := by
  induction places generalizing d with
  | nil => exact ⟨rfl, rfl⟩
  | cons first rest ih =>
    let told := ((d.clearTimer first).settle first .aborted).1
    have now : told.now = d.now := (d.clearTimer first).settle_now first .aborted
    have raised : told.raised = d.raised := (d.clearTimer first).settle_raised first .aborted
    exact ⟨(ih told).1.trans now, (ih told).2.trans raised⟩

theorem abort_of_raised {name : String} (raised : d.raised.contains name = true) :
    d.abort name = (d, []) := if_pos raised

theorem abort_of_clear {name : String} (clear : ¬ d.raised.contains name = true) :
    d.abort name = (d.markRaised name).abortAll
      ((d.listeners.filter fun l => l.signal = name).map Listener.place) := if_neg clear

theorem start_of_raised {id : String} {ms : Binary64} {signal : Option String}
    (raised : d.isRaised signal = true) :
    d.start id ms signal = settle { d with sleeps := d.sleeps ++ [⟨id, signal, .pending, d.now⟩] }
      d.sleeps.length .aborted := if_pos raised

theorem start_of_clear {id : String} {ms : Binary64} {signal : Option String}
    (clear : ¬ d.isRaised signal = true) :
    d.start id ms signal =
      ({ d with
          sleeps := d.sleeps ++ [⟨id, signal, .pending, d.now⟩]
          timers := d.timers ++ [⟨d.now + Delay.effective ms, d.sleeps.length⟩]
          listeners := d.listeners ++
            signal.toList.map fun name => ⟨name, d.sleeps.length⟩ },
        [.timer ms]) := if_neg clear

theorem untouched_start (before : place < d.sleeps.length) (id : String) (ms : Binary64)
    (signal : Option String) : Untouched place d (d.start id ms signal).1 := by
  have ne : d.sleeps.length ≠ place := Nat.ne_of_gt before
  have kept (s : Sleep) : (d.sleeps ++ [s])[place]? = d.sleeps[place]? :=
    List.getElem?_append_left before
  by_cases raised : d.isRaised signal = true
  · rw [start_of_raised raised]
    have begun : Untouched place d
        { d with sleeps := d.sleeps ++ [⟨id, signal, .pending, d.now⟩] } := ⟨kept _, rfl, rfl⟩
    exact begun.trans (untouched_settle ne .aborted)
  · rw [start_of_clear raised]
    refine ⟨kept _, ?_, ?_⟩
    · simp [List.filter_append, ne]
    · have none : (signal.toList.map fun name => (⟨name, d.sleeps.length⟩ : Listener)).filter
          (fun l => l.place = place) = [] := by
        simp [List.filter_eq_nil_iff, ne]
      simp only [List.filter_append, none, List.append_nil]

theorem start_clock (d : Dormitory) (id : String) (ms : Binary64) (signal : Option String) :
    (d.start id ms signal).1.now = d.now ∧ (d.start id ms signal).1.raised = d.raised := by
  by_cases raised : d.isRaised signal = true
  · rw [start_of_raised raised]
    exact ⟨settle_now _ _ _, settle_raised _ _ _⟩
  · rw [start_of_clear raised]
    exact ⟨rfl, rfl⟩

theorem ring_cases (d : Dormitory) (place : Nat) :
    d.ring place = (d, []) ∨
      ∃ t ∈ d.timers, t.place = place ∧ t.due ≤ d.now ∧ d.ring place = d.goOff t := by
  unfold ring
  cases found : d.timers.find? fun t => t.place = place with
  | none => exact Or.inl rfl
  | some t =>
    by_cases due : t.due ≤ d.now
    · refine Or.inr ⟨t, List.mem_of_find?_eq_some found, ?_, due, if_pos due⟩
      simpa using List.find?_some found
    · exact Or.inl (if_neg due)

theorem runBefore_keeps {P : Dormitory → Prop} (goOff : ∀ {d}, P d → ∀ t, P (d.goOff t).1)
    (holds : P d) (time timers : Nat) : P (d.runBefore time timers).1 := by
  induction timers generalizing d with
  | zero => exact holds
  | succ timers ih =>
    unfold runBefore
    cases nextTimer? d.timers with
    | none => exact holds
    | some t =>
      by_cases due : t.due < time
      · simp only [if_pos due]
        exact ih (goOff holds t)
      · simp only [if_neg due]
        exact holds

theorem after_append (d : Dormitory) (earlier later : List Action) :
    d.after (earlier ++ later) = (d.after earlier).after later := by
  induction earlier generalizing d with
  | nil => rfl
  | cons a rest ih => exact ih (d.step a).1

/-! ## What survives everything -/

/-- A property survives whatever is done to the sleeps that have started. -/
structure Stable (P : Dormitory → Prop) : Prop where
  settle : ∀ {d}, P d → ∀ place status, P (d.settle place status).1
  clearTimer : ∀ {d}, P d → ∀ place, P (d.clearTimer place)
  stopListening : ∀ {d}, P d → ∀ place, P (d.stopListening place)
  markRaised : ∀ {d}, P d → ∀ name, P (d.markRaised name)
  clock : ∀ {d}, P d → ∀ now, P { d with now }

namespace Stable

variable {P : Dormitory → Prop}

theorem goOff (stable : Stable P) (holds : P d) (t : Timer) : P (d.goOff t).1 := by
  have woken : P (d.wake t.due) := stable.clock holds _
  exact stable.settle (stable.stopListening (stable.clearTimer woken _) _) _ _

theorem abortAll (stable : Stable P) (holds : P d) (places : List Nat) :
    P (d.abortAll places).1 := by
  induction places generalizing d with
  | nil => exact holds
  | cons first rest ih => exact ih (stable.settle (stable.clearTimer holds first) first .aborted)

theorem runBefore (stable : Stable P) (holds : P d) (time timers : Nat) :
    P (d.runBefore time timers).1 :=
  runBefore_keeps (P := P) (fun holds t => stable.goOff holds t) holds time timers

theorem step (stable : Stable P)
    (start : ∀ {d}, P d → ∀ id ms signal, P (d.start id ms signal).1) (holds : P d)
    (a : Action) : P (d.step a).1 := by
  cases a with
  | start id ms signal => exact start holds id ms signal
  | abort name =>
    change P (d.abort name).1
    by_cases raised : d.raised.contains name = true
    · rw [abort_of_raised raised]
      exact holds
    · rw [abort_of_clear raised]
      exact stable.abortAll (stable.markRaised holds name) _
  | advance ms => exact stable.clock (stable.runBefore holds _ _) _
  | approach ms => exact stable.clock (stable.runBefore holds _ _) _
  | goOff place =>
    change P (d.ring place).1
    rcases ring_cases d place with idle | ⟨t, _, _, _, rang⟩
    · rw [idle]
      exact holds
    · rw [rang]
      exact stable.goOff holds t

theorem after (stable : Stable P)
    (start : ∀ {d}, P d → ∀ id ms signal, P (d.start id ms signal).1) (holds : P d)
    (actions : List Action) : P (d.after actions) := by
  induction actions generalizing d with
  | nil => exact holds
  | cons a rest ih => exact ih (stable.step start holds a)

end Stable

/-- All timers and listeners are those of sleeps that have started. -/
structure Housed (d : Dormitory) : Prop where
  timers : ∀ t ∈ d.timers, t.place < d.sleeps.length
  listeners : ∀ l ∈ d.listeners, l.place < d.sleeps.length

/-- Nothing means a sleep that has not started yet. -/
theorem Housed.no_timer (housed : Housed d) :
    d.timers.filter (fun t => t.place = d.sleeps.length) = [] :=
  List.filter_eq_nil_iff.mpr fun t listed => by
    have := housed.timers t listed
    simp only [decide_eq_true_eq]
    omega

theorem Housed.no_listener (housed : Housed d) :
    d.listeners.filter (fun l => l.place = d.sleeps.length) = [] :=
  List.filter_eq_nil_iff.mpr fun l listed => by
    have := housed.listeners l listed
    simp only [decide_eq_true_eq]
    omega

theorem stable_housed : Stable Housed where
  settle {d} housed place status := by
    have same : (d.settle place status).1.sleeps.length = d.sleeps.length := by
      unfold Dormitory.settle
      cases d.sleeps[place]? with
      | none => rfl
      | some s =>
        dsimp only
        split
        · exact List.length_set
        · rfl
    rw [settle_eq]
    exact ⟨fun t listed => same ▸ housed.timers t listed,
      fun l listed => same ▸ housed.listeners l listed⟩
  clearTimer housed _ :=
    ⟨fun t listed => housed.timers t (List.mem_of_mem_filter listed), housed.listeners⟩
  stopListening housed _ :=
    ⟨housed.timers, fun l listed => housed.listeners l (List.mem_of_mem_filter listed)⟩
  markRaised housed _ :=
    ⟨housed.timers, fun l listed => housed.listeners l (List.mem_of_mem_filter listed)⟩
  clock housed _ := ⟨housed.timers, housed.listeners⟩

theorem Housed.start (housed : Housed d) (id : String) (ms : Binary64)
    (signal : Option String) : Housed (d.start id ms signal).1 := by
  by_cases raised : d.isRaised signal = true
  · rw [start_of_raised raised]
    refine stable_housed.settle ⟨fun t listed => ?_, fun l listed => ?_⟩ _ _
    · exact Nat.lt_of_lt_of_le (housed.timers t listed) (by simp)
    · exact Nat.lt_of_lt_of_le (housed.listeners l listed) (by simp)
  · rw [start_of_clear raised]
    refine ⟨fun t listed => ?_, fun l listed => ?_⟩
    · rcases List.mem_append.mp listed with old | new
      · exact Nat.lt_of_lt_of_le (housed.timers t old) (by simp)
      · simp [List.mem_singleton.mp new]
    · rcases List.mem_append.mp listed with old | new
      · exact Nat.lt_of_lt_of_le (housed.listeners l old) (by simp)
      · obtain ⟨name, _, rfl⟩ := List.mem_map.mp new
        simp

theorem housed_new (now : Nat) : Housed (new now) :=
  ⟨List.forall_mem_nil _, List.forall_mem_nil _⟩

theorem housed_after (now : Nat) (actions : List Action) : Housed ((new now).after actions) :=
  stable_housed.after Housed.start (housed_new now) actions

/-! ## The clock and the signals -/

theorem step_now (d : Dormitory) (a : Action) : (d.step a).1.now = a.clock d.now := by
  cases a with
  | start id ms signal => exact (start_clock d id ms signal).1
  | abort name =>
    change (d.abort name).1.now = d.now
    by_cases raised : d.raised.contains name = true
    · rw [abort_of_raised raised]
    · rw [abort_of_clear raised]
      exact (abortAll_clock _ _).1
  | advance ms => rfl
  | approach ms => rfl
  | goOff place =>
    change (d.ring place).1.now = d.now
    rcases ring_cases d place with idle | ⟨t, _, _, due, rang⟩
    · rw [idle]
    · rw [rang, goOff_now]
      exact Nat.max_eq_left due

theorem after_now (d : Dormitory) (actions : List Action) :
    (d.after actions).now = actions.foldl Action.clock d.now := by
  induction actions generalizing d with
  | nil => rfl
  | cons a rest ih => rw [List.foldl_cons, ← step_now, ← ih, after]

theorem isRaised_congr (same : d'.raised = d.raised) (signal : Option String) :
    d'.isRaised signal = d.isRaised signal := by
  unfold isRaised
  rw [same]

theorem runBefore_raised (d : Dormitory) (time timers : Nat) :
    (d.runBefore time timers).1.raised = d.raised :=
  runBefore_keeps (P := fun d' => d'.raised = d.raised)
    (fun same t => (goOff_raised _ t).trans same) rfl time timers

theorem step_isRaised (d : Dormitory) (a : Action) (signal : Option String) :
    (d.step a).1.isRaised signal = (d.isRaised signal || a.raises signal) := by
  -- only an abort raises anything
  have quiet (moved : Dormitory × List Sight) (same : moved.1.raised = d.raised) :
      moved.1.isRaised signal = (d.isRaised signal || false) :=
    (isRaised_congr same signal).trans (Bool.or_false _).symm
  cases a with
  | start id ms own => exact quiet (d.start id ms own) (start_clock d id ms own).2
  | abort name =>
    change (d.abort name).1.isRaised signal = _
    by_cases raised : d.raised.contains name = true
    · rw [abort_of_raised raised]
      cases signal with
      | none => simp [isRaised, Action.raises]
      | some own =>
        by_cases same : own = name
        · simp only [same, isRaised, raised, Bool.true_or]
        · simp [isRaised, Action.raises, same]
    · rw [abort_of_clear raised, isRaised_congr (abortAll_clock _ _).2]
      cases signal with
      | none => simp [isRaised, Action.raises]
      | some own => simp [isRaised, Action.raises, markRaised, Bool.or_comm]
  | advance ms => exact quiet (d.advance ms) (runBefore_raised d _ _)
  | approach ms => exact quiet (d.approach ms) (runBefore_raised d _ _)
  | goOff place =>
    refine quiet (d.ring place) ?_
    rcases ring_cases d place with idle | ⟨t, _, _, _, rang⟩
    · rw [idle]
    · rw [rang, goOff_raised]

theorem after_isRaised (d : Dormitory) (actions : List Action) (signal : Option String) :
    (d.after actions).isRaised signal =
      (d.isRaised signal || actions.any (Action.raises signal)) := by
  induction actions generalizing d with
  | nil => rw [List.any_nil, Bool.or_false, after]
  | cons a rest ih => rw [after, ih, step_isRaised, List.any_cons, Bool.or_assoc]

end Dormitory

end JobWatch.Sleeps
