import JobWatch.Proofs.Sleeps.Endings

/-!
# How sleeps end

The fate of a sleep is what its own signal and its own timer do to it, whichever of them comes
first; it can be read off the actions alone. The main statement says that every sleep meets its
fate, whatever the others do. At the moment at which a timer is due it may go off before or after
anything else that happens then, and in any order with the other timers due.
-/

namespace JobWatch.Sleeps

namespace Action

/-- How the action ends the sleep at a place that is waiting for a signal or a time, if it does. -/
def ending? (place : Nat) (signal : Option String) (due now : Nat) : Action → Option (Status × Nat)
  | start _ _ _ => none
  | abort name => if signal = some name then some (.aborted, now) else none
  | advance ms => if due ≤ now + ms then some (.done, due) else none
  | approach ms => if due < now + ms then some (.done, due) else none
  | goOff p => if p = place ∧ due ≤ now then some (.done, due) else none

end Action

/-- How and when a sleep ends that is waiting for a signal or a time: by the first action that
ends it. -/
def fate? (place : Nat) (signal : Option String) (due : Nat) :
    Nat → List Action → Option (Status × Nat)
  | _, [] => none
  | now, a :: rest =>
    (a.ending? place signal due now).or (fate? place signal due (a.clock now) rest)

/-- Raising another signal changes nothing about the fate of a sleep. -/
theorem fate?_abort_other {place : Nat} {signal : Option String} {due : Nat} {other : String}
    (ne : signal ≠ some other) (now : Nat) (earlier later : List Action) :
    fate? place signal due now (earlier ++ .abort other :: later) =
      fate? place signal due now (earlier ++ later) := by
  induction earlier generalizing now with
  | nil =>
    rw [List.nil_append, fate?, Action.ending?, if_neg ne, Option.none_or]
    rfl
  | cons a rest ih =>
    rw [List.cons_append, List.cons_append, fate?, fate?, ih]

/-- A sleep after it has met its fate. -/
def Sleep.meet (s : Sleep) : Option (Status × Nat) → Sleep
  | none => s
  | some (status, time) => { s with status, since := time }

namespace Dormitory

variable {d d' : Dormitory} {place : Nat}

/-! ## A sleep that has ended -/

/-- A sleep has ended, and neither a timer nor a signal means it any more. -/
structure Rests (place : Nat) (s : Sleep) (d : Dormitory) : Prop where
  found : d.sleeps[place]? = some s
  ended : s.status ≠ .pending
  timers : d.timers.filter (fun t => t.place = place) = []
  listeners : d.listeners.filter (fun l => l.place = place) = []

variable {s : Sleep}

theorem Rests.of_untouched (h : Rests place s d) (untouched : Untouched place d d') :
    Rests place s d' :=
  ⟨untouched.sleep.trans h.found, h.ended, untouched.timers.trans h.timers,
    untouched.listeners.trans h.listeners⟩

theorem stable_rests : Stable (Rests place s) where
  settle {d} h other status := by
    by_cases own : other = place
    · rw [own, settle_ended h.found h.ended]
      exact h
    · exact h.of_untouched (untouched_settle own status)
  clearTimer h _ := by
    refine ⟨h.found, h.ended, ?_, h.listeners⟩
    rw [Dormitory.clearTimer, List.filter_comm, h.timers, List.filter_nil]
  stopListening h _ := by
    refine ⟨h.found, h.ended, h.timers, ?_⟩
    rw [Dormitory.stopListening, List.filter_comm, h.listeners, List.filter_nil]
  markRaised h _ := by
    refine ⟨h.found, h.ended, h.timers, ?_⟩
    rw [Dormitory.markRaised, List.filter_comm, h.listeners, List.filter_nil]
  clock h _ := ⟨h.found, h.ended, h.timers, h.listeners⟩

theorem Rests.start (h : Rests place s d) (id : String) (ms : Binary64)
    (signal : Option String) : Rests place s (d.start id ms signal).1 :=
  h.of_untouched
    (untouched_start (List.getElem?_eq_some_iff.mp h.found).1 id ms signal)

/-! ## A sleep that is waiting -/

/-- A sleep is waiting: one timer will end it, and it listens to its signal, which is not raised. -/
structure Waits (d : Dormitory) (place : Nat) (s : Sleep) (due : Nat) : Prop where
  found : d.sleeps[place]? = some s
  pending : s.status = .pending
  timers : d.timers.filter (fun t => t.place = place) = [⟨due, place⟩]
  listeners : d.listeners.filter (fun l => l.place = place) =
    s.signal.toList.map fun name => ⟨name, place⟩
  unraised : d.isRaised s.signal = false
  inTime : d.now ≤ due

variable {due : Nat}

theorem Waits.of_untouched (h : d.Waits place s due) (untouched : Untouched place d d')
    (raised : d'.raised = d.raised) (inTime : d'.now ≤ due) : d'.Waits place s due := by
  refine ⟨untouched.sleep.trans h.found, h.pending, untouched.timers.trans h.timers,
    untouched.listeners.trans h.listeners, ?_, inTime⟩
  unfold isRaised
  rw [raised]
  exact h.unraised

theorem Waits.mem_timers (h : d.Waits place s due) : ⟨due, place⟩ ∈ d.timers := by
  have own : (⟨due, place⟩ : Timer) ∈ d.timers.filter fun t => t.place = place := by
    simp [h.timers]
  exact List.mem_of_mem_filter own

theorem Waits.timer_eq (h : d.Waits place s due) {t : Timer} (listed : t ∈ d.timers)
    (own : t.place = place) : t = ⟨due, place⟩ := by
  have kept : t ∈ d.timers.filter fun t => t.place = place :=
    List.mem_filter.mpr ⟨listed, by simp [own]⟩
  rw [h.timers] at kept
  exact List.mem_singleton.mp kept

/-- A sleep that nothing means any more ends and rests. -/
theorem rests_settle (found : d.sleeps[place]? = some s) (pending : s.status = .pending)
    (timers : d.timers.filter (fun t => t.place = place) = [])
    (listeners : d.listeners.filter (fun l => l.place = place) = []) (status : Status)
    (ends : status ≠ .pending) :
    (d.settle place status).1.Rests place { s with status, since := d.now } := by
  have before : place < d.sleeps.length := (List.getElem?_eq_some_iff.mp found).1
  rw [settle_pending found pending]
  exact ⟨List.getElem?_set_self before, ends, timers, listeners⟩

/-- The timer of a sleep goes off, on time. -/
theorem Waits.goOff (h : d.Waits place s due) :
    (d.goOff ⟨due, place⟩).1.Rests place { s with status := .done, since := due } := by
  have now : (d.wake due).now = due := Nat.max_eq_right h.inTime
  have rests : ((((d.wake due).clearTimer place).stopListening place).settle place .done).1.Rests
      place { s with status := .done, since := (d.wake due).now } := by
    refine rests_settle (d := ((d.wake due).clearTimer place).stopListening place)
      h.found h.pending ?_ ?_ .done nofun
    · simp [Dormitory.stopListening, Dormitory.clearTimer, List.filter_filter]
    · simp [Dormitory.stopListening, Dormitory.clearTimer, List.filter_filter]
  rw [now] at rests
  exact rests

theorem Waits.ring_eq (h : d.Waits place s due) :
    d.ring place = if due ≤ d.now then d.goOff ⟨due, place⟩ else (d, []) := by
  have found : d.timers.find? (fun t => t.place = place) = some ⟨due, place⟩ := by
    rw [← List.head?_filter, h.timers, List.head?_cons]
  simp only [ring, found]

/-- The timer of another sleep is let go off. -/
theorem Waits.ring_other {other : Nat} (h : d.Waits place s due) (ne : other ≠ place) :
    (d.ring other).1.Waits place s due := by
  rcases ring_cases d other with idle | ⟨t, _, named, late, rang⟩
  · rw [idle]
    exact h
  · rw [rang]
    refine h.of_untouched (untouched_goOff (named ▸ ne)) (goOff_raised d t) ?_
    rw [goOff_now, Nat.max_eq_left late]
    exact h.inTime

/-- All timers due before a time go off, if there are no more of them than allowed for. -/
theorem Waits.runBefore (h : d.Waits place s due) (time : Nat) {timers : Nat}
    (enough : d.timers.length ≤ timers) :
    (due < time ∧ (d.runBefore time timers).1.Rests place
      { s with status := .done, since := due }) ∨
    (time ≤ due ∧ (d.runBefore time timers).1.Waits place s due) := by
  induction timers generalizing d with
  | zero =>
    have none : d.timers = [] := List.eq_nil_of_length_eq_zero (Nat.le_zero.mp enough)
    have some := h.mem_timers
    rw [none] at some
    cases some
  | succ timers ih =>
    obtain ⟨t, next⟩ := nextTimer?_isSome h.mem_timers
    obtain ⟨listed, least⟩ := mem_of_nextTimer? next
    have sooner : t.due ≤ due := least _ h.mem_timers
    by_cases goes : t.due < time
    · have ran : (d.runBefore time (timers + 1)).1 = ((d.goOff t).1.runBefore time timers).1 := by
        simp only [Dormitory.runBefore, next, if_pos goes]
      rw [ran]
      by_cases own : t.place = place
      · have same := h.timer_eq listed own
        subst same
        exact Or.inl ⟨goes, stable_rests.runBefore h.goOff time timers⟩
      · have inTime := h.inTime
        have still : (d.goOff t).1.Waits place s due := by
          refine h.of_untouched (untouched_goOff own) (goOff_raised d t) ?_
          rw [goOff_now]
          omega
        refine ih still ?_
        have fewer : (d.timers.filter fun u => u.place ≠ t.place).length < d.timers.length :=
          List.length_filter_lt_length_iff_exists.mpr ⟨t, listed, by simp⟩
        rw [goOff_timers]
        omega
    · have stays : (d.runBefore time (timers + 1)).1 = d := by
        simp only [Dormitory.runBefore, next, if_neg goes]
      rw [stays]
      exact Or.inr ⟨by omega, h⟩

/-- Among those who are told that their signal has been raised, a sleep is aborted. -/
theorem rests_abortAll (found : d.sleeps[place]? = some s) (pending : s.status = .pending)
    (listeners : d.listeners.filter (fun l => l.place = place) = []) {places : List Nat}
    (told : place ∈ places) :
    (d.abortAll places).1.Rests place { s with status := .aborted, since := d.now } := by
  induction places generalizing d with
  | nil => cases told
  | cons first rest ih =>
    by_cases own : first = place
    · subst own
      have rests : ((d.clearTimer first).settle first .aborted).1.Rests first
          { s with status := .aborted, since := d.now } := by
        refine rests_settle (d := d.clearTimer first) found pending ?_ listeners .aborted nofun
        simp [Dormitory.clearTimer, List.filter_filter]
      exact stable_rests.abortAll rests rest
    · let next := ((d.clearTimer first).settle first .aborted).1
      have untouched : Untouched place d next :=
        (untouched_clearTimer own).trans (untouched_settle own .aborted)
      have now : next.now = d.now := (d.clearTimer first).settle_now first .aborted
      have later : place ∈ rest := (List.mem_cons.mp told).resolve_left (Ne.symm own)
      have rests := ih (untouched.sleep.trans found) (untouched.listeners.trans listeners) later
      rw [now] at rests
      exact rests

/-- The signal of a sleep is raised. -/
theorem Waits.abort {name : String} (h : d.Waits place s due) (own : s.signal = some name) :
    (d.abort name).1.Rests place { s with status := .aborted, since := d.now } := by
  have clear : ¬ d.raised.contains name = true := by
    have unraised := h.unraised
    rw [own] at unraised
    simpa [isRaised] using unraised
  have listens : (⟨name, place⟩ : Listener) ∈ d.listeners := by
    have listed : (⟨name, place⟩ : Listener) ∈ d.listeners.filter fun l => l.place = place := by
      simp [h.listeners, own]
    exact List.mem_of_mem_filter listed
  rw [abort_of_clear clear]
  refine rests_abortAll (d := d.markRaised name) h.found h.pending ?_ ?_
  · rw [markRaised, List.filter_comm, h.listeners, own]
    simp
  · exact List.mem_map.mpr ⟨_, List.mem_filter.mpr ⟨listens, by simp⟩, rfl⟩

/-- A sleep that is waiting listens to its own signal and to nothing else. -/
theorem Waits.signal_of_listener (h : d.Waits place s due) {l : Listener} (listed : l ∈ d.listeners)
    (own : l.place = place) : s.signal = some l.signal := by
  have kept : l ∈ d.listeners.filter fun l => l.place = place :=
    List.mem_filter.mpr ⟨listed, by simp [own]⟩
  rw [h.listeners] at kept
  obtain ⟨signal, isOwn, rfl⟩ := List.mem_map.mp kept
  exact Option.mem_toList.mp isOwn

theorem Waits.markRaised_other {name : String} (h : d.Waits place s due)
    (other : s.signal ≠ some name) : (d.markRaised name).Waits place s due := by
  refine ⟨h.found, h.pending, h.timers, ?_, ?_, h.inTime⟩
  · rw [markRaised, List.filter_comm, List.filter_eq_self.mpr, h.listeners]
    intro l listed
    obtain ⟨listed, own⟩ := List.mem_filter.mp listed
    have signal := h.signal_of_listener listed (by simpa using own)
    simp only [decide_eq_true_eq]
    rintro rfl
    exact other signal
  · have unraised := h.unraised
    revert unraised
    cases signal : s.signal with
    | none => exact fun _ => rfl
    | some own =>
      rw [signal] at other
      have ne : own ≠ name := fun same => other (congrArg some same)
      simp [isRaised, markRaised, ne]

/-- Another signal is raised. -/
theorem Waits.abort_other {name : String} (h : d.Waits place s due)
    (other : s.signal ≠ some name) : (d.abort name).1.Waits place s due := by
  by_cases raised : d.raised.contains name = true
  · rw [abort_of_raised raised]
    exact h
  · rw [abort_of_clear raised]
    have untold : place ∉ (d.listeners.filter fun l => l.signal = name).map Listener.place := by
      intro told
      obtain ⟨l, heard, own⟩ := List.mem_map.mp told
      obtain ⟨listed, named⟩ := List.mem_filter.mp heard
      have signal := h.signal_of_listener listed own
      rw [of_decide_eq_true named] at signal
      exact other signal
    obtain ⟨now, raised⟩ := (d.markRaised name).abortAll_clock
      ((d.listeners.filter fun l => l.signal = name).map Listener.place)
    exact (h.markRaised_other other).of_untouched (untouched_abortAll untold) raised
      (Nat.le_trans (Nat.le_of_eq now) h.inTime)

/-- A sleep that starts with its signal raised rests at once. -/
theorem rests_start (housed : Housed d) (id : String) (ms : Binary64) {signal : Option String}
    (raised : d.isRaised signal = true) :
    Rests d.sleeps.length ⟨id, signal, .aborted, d.now⟩ (d.start id ms signal).1 ∧
      (d.start id ms signal).1.timers = d.timers ∧
      (d.start id ms signal).2 = [.settled id d.now] := by
  let begun : Dormitory := { d with sleeps := d.sleeps ++ [⟨id, signal, .pending, d.now⟩] }
  have found : begun.sleeps[d.sleeps.length]? = some ⟨id, signal, .pending, d.now⟩ :=
    List.getElem?_concat_length
  rw [start_of_raised raised]
  refine ⟨rests_settle (d := begun) found rfl housed.no_timer housed.no_listener .aborted nofun,
    ?_, ?_⟩
  · rw [settle_eq]
  · rw [settle_pending (d := begun) found rfl]

/-- A sleep that starts otherwise sets its timer and waits. -/
theorem waits_start (housed : Housed d) (id : String) (ms : Binary64) {signal : Option String}
    (clear : ¬ d.isRaised signal = true) :
    (d.start id ms signal).1.Waits d.sleeps.length ⟨id, signal, .pending, d.now⟩
        (d.now + Delay.effective ms) ∧
      (d.start id ms signal).2 = [.timer ms] := by
  rw [start_of_clear clear]
  refine ⟨⟨List.getElem?_concat_length, rfl, ?_, ?_, ?_, Nat.le_add_right _ _⟩, rfl⟩
  · simp [List.filter_append, housed.no_timer]
  · rw [List.filter_append, housed.no_listener, List.nil_append, List.filter_eq_self]
    intro l listed
    obtain ⟨name, _, rfl⟩ := List.mem_map.mp listed
    simp
  · simpa [isRaised] using clear

/-- Whatever happens, a sleep that is waiting ends as and when its signal and its time say, or goes
on waiting. -/
theorem Waits.step (h : d.Waits place s due) (a : Action) :
    match a.ending? place s.signal due d.now with
    | some (status, time) => Rests place { s with status, since := time } (d.step a).1
    | none => (d.step a).1.Waits place s due := by
  have inTime := h.inTime
  have passing {d' : Dormitory} (time : Nat) (h' : d'.Waits place s due) (inTime : time ≤ due) :
      ({ d' with now := time } : Dormitory).Waits place s due :=
    h'.of_untouched ⟨rfl, rfl, rfl⟩ rfl inTime
  cases a with
  | start id ms signal =>
    have before : place < d.sleeps.length := (List.getElem?_eq_some_iff.mp h.found).1
    obtain ⟨now, raised⟩ := start_clock d id ms signal
    exact h.of_untouched (untouched_start before id ms signal) raised
      (Nat.le_trans (Nat.le_of_eq now) inTime)
  | abort name =>
    by_cases own : s.signal = some name
    · simp only [Action.ending?, if_pos own]
      exact h.abort own
    · simp only [Action.ending?, if_neg own]
      exact h.abort_other own
  | advance ms =>
    rcases h.runBefore (d.now + ms + 1) (Nat.le_refl _) with ⟨due, rests⟩ | ⟨later, waits⟩
    · simp only [Action.ending?, if_pos (Nat.le_of_lt_succ due)]
      exact stable_rests.clock rests _
    · simp only [Action.ending?, if_neg (Nat.not_le.mpr later)]
      exact passing _ waits (by omega)
  | approach ms =>
    rcases h.runBefore (d.now + ms) (Nat.le_refl _) with ⟨due, rests⟩ | ⟨later, waits⟩
    · simp only [Action.ending?, if_pos due]
      exact stable_rests.clock rests _
    · simp only [Action.ending?, if_neg (Nat.not_lt.mpr later)]
      exact passing _ waits later
  | goOff other =>
    by_cases own : other = place
    · subst own
      change match Action.ending? other s.signal due d.now (.goOff other) with
        | some (status, time) => Rests other { s with status, since := time } (d.ring other).1
        | none => (d.ring other).1.Waits other s due
      rw [h.ring_eq]
      by_cases late : due ≤ d.now
      · simp only [Action.ending?, late, and_self, if_true]
        exact h.goOff
      · simp only [Action.ending?, late, and_false, if_false]
        exact h
    · simp only [Action.ending?, own, false_and, if_false]
      exact h.ring_other own

/-- A sleep stands as it was left: its record is this one, and these are its timers. -/
structure Stands (place : Nat) (s : Sleep) (timers : List Timer) (d : Dormitory) : Prop where
  found : d.sleeps[place]? = some s
  timers : d.timers.filter (fun t => t.place = place) = timers

theorem Rests.stands (h : Rests place s d) : Stands place s [] d := ⟨h.found, h.timers⟩

/-- A sleep that is waiting meets its fate. -/
theorem Waits.after (h : d.Waits place s due) (actions : List Action) :
    Stands place (s.meet (fate? place s.signal due d.now actions))
      (if (fate? place s.signal due d.now actions).isSome then [] else [⟨due, place⟩])
      (d.after actions) := by
  induction actions generalizing d with
  | nil => exact ⟨h.found, h.timers⟩
  | cons a rest ih =>
    have stepped := h.step a
    rw [fate?, Dormitory.after]
    cases ends : a.ending? place s.signal due d.now with
    | some ending =>
      rw [ends] at stepped
      exact (stable_rests.after (fun rests => rests.start) stepped rest).stands
    | none =>
      rw [ends] at stepped
      rw [Option.none_or, ← step_now]
      exact ih stepped

/-- A sleep that starts stands, after some further actions, as its fate says. -/
theorem stands_after_start (housed : Housed d) (id : String) (ms : Binary64)
    (signal : Option String) (actions : List Action) :
    let fate :=
      if d.isRaised signal then some (.aborted, d.now)
      else fate? d.sleeps.length signal (d.now + Delay.effective ms) d.now actions
    Stands d.sleeps.length (Sleep.meet ⟨id, signal, .pending, d.now⟩ fate)
      (if fate.isSome then [] else [⟨d.now + Delay.effective ms, d.sleeps.length⟩])
      ((d.start id ms signal).1.after actions) := by
  intro fate
  by_cases raised : d.isRaised signal = true
  · obtain ⟨rests, _, _⟩ := rests_start housed id ms raised
    simp only [fate, if_pos raised]
    exact (stable_rests.after (fun rests => rests.start) rests actions).stands
  · obtain ⟨waits, _⟩ := waits_start housed id ms raised
    have now : (d.start id ms signal).1.now = d.now := (start_clock d id ms signal).1
    have stands := waits.after actions
    rw [now] at stands
    simp only [fate, if_neg raised]
    exact stands

/-- In every run, whatever starts, is raised and goes off before and after: a sleep that starts
with its signal raised is aborted at once and sets no timer. Every other one sets its timer and
meets the fate that its own signal and its own time have for it: it is aborted when its signal is
raised before its timer goes off, and then the timer is gone; else it is done exactly when the
timer is due, and stays so. Other signals do not concern it. And every ending is seen once. -/
theorem sleep_meets_fate (start : Nat) (before later : List Action) (id : String) (ms : Binary64)
    (signal : Option String) :
    let d := (new start).after before
    let place := d.sleeps.length
    let now := before.foldl Action.clock start
    let due := now + Delay.effective ms
    let raised := before.any (Action.raises signal)
    let run (later : List Action) := before ++ .start id ms signal :: later
    let final (later : List Action) := (new start).after (run later)
    let fate := if raised then some (.aborted, now) else fate? place signal due now later
    (d.start id ms signal).2 = [if raised then .settled id now else .timer ms] ∧
      (d.start id ms signal).1.timers =
        (if raised then d.timers else d.timers ++ [⟨due, place⟩]) ∧
      Stands place (Sleep.meet ⟨id, signal, .pending, now⟩ fate)
        (if fate.isSome then [] else [⟨due, place⟩]) (final later) ∧
      (∀ other more, signal ≠ some other →
        (final (later ++ .abort other :: more)).sleeps[place]? =
          (final (later ++ more)).sleeps[place]?) ∧
      (((new start).seen (run later)).filter Sight.isEnding).Perm
        ((final later).sleeps.filterMap Sleep.ending?) := by
  intro d place now due raised run final fate
  have nowEq : d.now = now := after_now (new start) before
  have raisedEq : d.isRaised signal = raised := by
    have none : (new start).isRaised signal = false := by cases signal <;> rfl
    rw [after_isRaised, none, Bool.false_or]
  have housed : Housed d := housed_after start before
  have split (later : List Action) : final later = (d.start id ms signal).1.after later :=
    after_append (new start) before (.start id ms signal :: later)
  have stands (later : List Action) :
      Stands place
        (Sleep.meet ⟨id, signal, .pending, now⟩
          (if raised then some (.aborted, now) else fate? place signal due now later))
        (if (if raised then some (.aborted, now)
          else fate? place signal due now later).isSome then [] else [⟨due, place⟩])
        (final later) := by
    have stood := stands_after_start housed id ms signal later
    rw [nowEq, raisedEq, ← split] at stood
    exact stood
  refine ⟨?_, ?_, stands later, ?_, ?_⟩
  · by_cases isRaised : d.isRaised signal = true
    · rw [(rests_start housed id ms isRaised).2.2, ← raisedEq, if_pos isRaised, nowEq]
    · rw [(waits_start housed id ms isRaised).2, ← raisedEq, if_neg isRaised]
  · by_cases isRaised : d.isRaised signal = true
    · rw [(rests_start housed id ms isRaised).2.1, ← raisedEq, if_pos isRaised]
    · rw [start_of_clear isRaised, ← raisedEq, if_neg isRaised, nowEq]
  · intro other more ne
    rw [(stands _).found, (stands _).found, fate?_abort_other ne]
  · exact tells_seen (new start) (run later)

end Dormitory

end JobWatch.Sleeps
