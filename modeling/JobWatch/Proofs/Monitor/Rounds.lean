import JobWatch.Proofs.Monitor.Course
import JobWatch.Script

/-!
# Rounds of checks

The main statement says what a run of checks does whose signal stays down: how many checks and
rests there are, what the reporter is given, what the run comes to and how long it takes. Backend
and reporter answer whatever they like; sleeping is done by the clock. A run that is aborted is not
spoken of here.
-/

namespace JobWatch

/-- The queues whose status is asked for. -/
def Event.read? : Event → Option (List String)
  | .backend (.queueStatus queues) => some queues
  | _ => none

/-- The reading that a reporter is given. -/
def Event.record? : Event → Option StatusMap
  | .record statuses => some statuses
  | _ => none

/-- What each check has asked the status of, in order. -/
def reads (events : List Event) : List (List String) := events.filterMap Event.read?

/-- What the reporter has been given, in order. -/
def records (events : List Event) : List StatusMap := events.filterMap Event.record?

/-- An event that neither begins a check nor gives the reporter anything. -/
def Event.Passing (e : Event) : Prop := e.read? = none ∧ e.record? = none

open Run

variable {σ : Type}

namespace MonitorLoop

/-- A reporter who answers from outside, if there is one. -/
def reporter (respond? : Option (StatusMap → Responder σ Unit)) (statuses : StatusMap) :
    Run σ Unit :=
  match respond? with
  | none => pure ()
  | some respond => Run.ask (.record statuses) (respond statuses)

end MonitorLoop

/-! ## What checks leave in the trail -/

theorem reads_append (xs ys : List Event) : reads (xs ++ ys) = reads xs ++ reads ys :=
  List.filterMap_append

theorem records_append (xs ys : List Event) : records (xs ++ ys) = records xs ++ records ys :=
  List.filterMap_append

theorem reads_of_passing {events : List Event} (passing : ∀ e ∈ events, e.Passing) :
    reads events = [] := List.filterMap_eq_nil_iff.mpr fun e listed => (passing e listed).1

theorem records_of_passing {events : List Event} (passing : ∀ e ∈ events, e.Passing) :
    records events = [] := List.filterMap_eq_nil_iff.mpr fun e listed => (passing e listed).2

theorem Event.passing_of_isLine {e : Event} (line : e.isLine = true) : e.Passing := by
  cases e <;> first | exact ⟨rfl, rfl⟩ | cases line

theorem composes_passing :
    Composes (OfKind Event.Passing : Session σ → List Event → Session σ → Prop) :=
  composes_kind fun _ _ _ => ⟨rfl, rfl⟩

theorem passing_pause (ms : Binary64) : Spans (OfKind Event.Passing) (pause ms : Run σ Unit) := by
  intro s
  rcases pause_cases ms s with ⟨_, none⟩ | ⟨_, ⟨later, seen, interrupts⟩, _⟩
  · rw [none]
    exact composes_passing.still s
  · rw [seen]
    intro e listed
    rcases List.mem_cons.mp listed with rfl | listed
    · exact ⟨rfl, rfl⟩
    · obtain ⟨name, rfl⟩ := interrupts e listed
      exact ⟨rfl, rfl⟩

namespace Monitor

/-- A monitor over a backend that answers from outside. It sleeps by the clock. -/
structure Clockwork (m : Monitor σ) (r : BackendResponder σ) : Prop where
  backed : m.backend = r.backend
  sleeps : m.sleep = Run.pause

variable {m : Monitor σ} {r : BackendResponder σ}

/-- After the reading, all that is asked is in passing. -/
theorem Clockwork.passing_decide (clockwork : m.Clockwork r) (view : JobView) (o : CheckOptions σ)
    (statuses : StatusMap) : Spans (OfKind Event.Passing) (m.decide view o statuses) := by
  have composes := composes_passing (σ := σ)
  have leads : m.Leads (OfKind Event.Passing) :=
    { look := composes.bind composes.throwIfAborted fun _ => by
        rw [clockwork.backed]
        exact kind_ask ⟨rfl, rfl⟩ _
      busy := fun _ => composes.bind composes.throwIfAborted fun _ => by
        rw [clockwork.backed]
        exact kind_ask ⟨rfl, rfl⟩ _
      sleep := fun ms => composes.bind composes.throwIfAborted fun _ => by
        rw [clockwork.sleeps]
        exact passing_pause ms }
  refine leads.decide composes view o (fun _ => ?_) ?_ statuses
  · rw [clockwork.backed]
    exact kind_ask ⟨rfl, rfl⟩ _
  · rw [clockwork.backed]
    exact kind_ask ⟨rfl, rfl⟩ _

theorem Clockwork.clocked_check (clockwork : m.Clockwork r) (view : JobView) {o : CheckOptions σ}
    (handOn : ∀ statuses, Spans Clocked (o.onSnapshot statuses)) :
    Spans Clocked (m.check view o) := by
  have composes := composes_clocked (σ := σ)
  have leads : m.Leads Clocked :=
    { look := composes.bind composes.throwIfAborted fun _ => by
        rw [clockwork.backed]
        exact clocked_ask rfl _
      busy := fun _ => composes.bind composes.throwIfAborted fun _ => by
        rw [clockwork.backed]
        exact clocked_ask rfl _
      sleep := fun ms => composes.bind composes.throwIfAborted fun _ => by
        rw [clockwork.sleeps]
        exact clocked_pause ms }
  refine leads.check composes view (fun _ => ?_) handOn (fun _ => ?_) ?_
  all_goals
    rw [clockwork.backed]
    exact clocked_ask rfl _

/-- The readings that an answer leaves to hand on, if there is a reporter. -/
def handed (respond? : Option (StatusMap → Responder σ Unit)) :
    Except Thrown StatusMap → List StatusMap
  | .ok statuses => if respond?.isSome then [statuses] else []
  | .error _ => []

/-- A check that starts in a session asks for the status of the queues once, before anything else,
and hands the answer on before it asks anything else. It fails with what either of the two fails
with. -/
structure ReadsOnce (r : BackendResponder σ) (respond? : Option (StatusMap → Responder σ Unit))
    (queues : List String) (s : Session σ) (check : Result σ Bool) : Prop where
  trail : ∃ lines later, check.events = .backend (.queueStatus queues) :: (lines ++
      ((handed respond? (r.queueStatus queues s.outside).1.outcome).map .record ++ later)) ∧
    (∀ e ∈ lines, e.isLine = true) ∧ ∀ e ∈ later, e.Passing
  unread : ∀ t, (r.queueStatus queues s.outside).1.outcome = .error t → check.outcome = .threw t
  unheard : ∀ statuses respond t, (r.queueStatus queues s.outside).1.outcome = .ok statuses →
    respond? = some respond →
    (respond statuses (r.queueStatus queues s.outside).2).1.outcome = .error t →
    check.outcome = .threw t

/-- Handing a reading on leaves at most one event, and comes before what is asked in passing. -/
theorem handOn_then {x : Run σ Bool} (passing : Spans (OfKind Event.Passing) x)
    (respond? : Option (StatusMap → Responder σ Unit)) (statuses : StatusMap) (w : Session σ) :
    let r := (do MonitorLoop.reporter respond? statuses; x : Run σ Bool) w
    (∃ later, r.events = (handed respond? (.ok statuses)).map .record ++ later ∧
        ∀ e ∈ later, e.Passing) ∧
      ∀ respond t, respond? = some respond →
        (respond statuses w.outside).1.outcome = .error t → r.outcome = .threw t := by
  cases respond? with
  | none =>
    refine ⟨⟨(x w).events, ?_, passing w⟩, nofun⟩
    rw [MonitorLoop.reporter, pure_bind]
    rfl
  | some respond =>
    cases answer : (respond statuses w.outside).1.outcome with
    | error t =>
      have heard := ask_error (e := .record statuses) answer
      rw [MonitorLoop.reporter, bind_threw (by rw [heard]), heard]
      refine ⟨⟨[], rfl, List.forall_mem_nil _⟩, ?_⟩
      rintro _ t' ⟨⟩ failed
      rw [answer] at failed
      cases failed
      rfl
    | ok u =>
      have heard := ask_ok (e := .record statuses) answer
      rw [MonitorLoop.reporter, bind_returned (by rw [heard]), heard]
      refine ⟨⟨_, rfl, passing _⟩, ?_⟩
      rintro _ t' ⟨⟩ failed
      rw [answer] at failed
      cases failed

theorem Clockwork.check_readsOnce (clockwork : m.Clockwork r)
    (respond? : Option (StatusMap → Responder σ Unit)) (view : JobView) {o : CheckOptions σ}
    (valid : Delay.validate o.sleepSeconds "sleepSeconds" = .ok ())
    (reports : o.onSnapshot = MonitorLoop.reporter respond?) {s : Session σ}
    (down : s.signal ≠ .raised) :
    ReadsOnce r respond? (o.statusQueues.getD view.relevantQueues) s (m.check view o s) := by
  rw [check_eq_decide, valid, require_ok_bind, throwIfAborted_bind, if_neg down, reports]
  generalize o.statusQueues.getD view.relevantQueues = queues
  cases answer : (r.queueStatus queues s.outside).1.outcome with
  | error t =>
    have read : m.backend.queueStatus queues s =
        ⟨.threw t, [.backend (.queueStatus queues)], answered (r.queueStatus queues) s⟩ := by
      rw [clockwork.backed]
      exact ask_error answer
    rw [bind_threw (by rw [read]), read]
    refine ⟨⟨[], [], ?_, List.forall_mem_nil _, List.forall_mem_nil _⟩, ?_, ?_⟩
    · rw [answer]
      rfl
    · rintro t' failed
      rw [answer] at failed
      cases failed
      rfl
    · rintro statuses _ _ read'
      rw [answer] at read'
      cases read'
  | ok statuses =>
    have read : m.backend.queueStatus queues s =
        ⟨.returned statuses, [.backend (.queueStatus queues)],
          answered (r.queueStatus queues) s⟩ := by
      rw [clockwork.backed]
      exact ask_ok answer
    obtain ⟨lines, logs, lined⟩ := log_apply m.logger .debug "queue status:"
      [.statuses statuses] (answered (r.queueStatus queues) s)
    obtain ⟨⟨later, seen, passing⟩, unheard⟩ := handOn_then
      (clockwork.passing_decide view o statuses) respond? statuses
      (answered (r.queueStatus queues) s)
    rw [bind_returned (by rw [read]), read, Log.Logger.debug, bind_returned (by rw [logs]), logs]
    refine ⟨⟨lines, later, ?_, lined, passing⟩, ?_, ?_⟩
    · rw [answer, ← seen]
      rfl
    · rintro t failed
      rw [answer] at failed
      cases failed
    · rintro statuses' respond t read' isOne failed
      rw [answer] at read'
      cases read'
      rw [answered_outside] at unheard
      exact unheard respond t isOne failed

theorem ReadsOnce.reads_eq {respond? : Option (StatusMap → Responder σ Unit)}
    {queues : List String} {s : Session σ} {check : Result σ Bool}
    (h : ReadsOnce r respond? queues s check) : reads check.events = [queues] := by
  obtain ⟨lines, later, seen, lined, passing⟩ := h.trail
  have none : reads (lines ++ ((handed respond? (r.queueStatus queues s.outside).1.outcome).map
      Event.record ++ later)) = [] := by
    refine List.filterMap_eq_nil_iff.mpr fun e listed => ?_
    rcases List.mem_append.mp listed with line | rest
    · exact (Event.passing_of_isLine (lined e line)).1
    · rcases List.mem_append.mp rest with handed | passed
      · obtain ⟨statuses, _, rfl⟩ := List.mem_map.mp handed
        rfl
      · exact (passing e passed).1
  rw [seen]
  exact congrArg (queues :: ·) none

theorem ReadsOnce.records_eq {respond? : Option (StatusMap → Responder σ Unit)}
    {queues : List String} {s : Session σ} {check : Result σ Bool}
    (h : ReadsOnce r respond? queues s check) :
    records check.events = handed respond? (r.queueStatus queues s.outside).1.outcome := by
  obtain ⟨lines, later, seen, lined, passing⟩ := h.trail
  have own (given : List StatusMap) : records (given.map Event.record) = given := by
    induction given with
    | nil => rfl
    | cons m rest ih => exact congrArg (m :: ·) ih
  have noLine : records lines = [] :=
    records_of_passing fun e line => Event.passing_of_isLine (lined e line)
  rw [seen]
  change records (lines ++ _) = _
  rw [records_append, records_append, noLine, own, records_of_passing passing, List.append_nil,
    List.nil_append]

/-- Asked from outside and slept by the clock, a check is never cut off. -/
theorem Clockwork.check_ends (clockwork : m.Clockwork r)
    (respond? : Option (StatusMap → Responder σ Unit)) (view : JobView) {o : CheckOptions σ}
    (valid : Delay.validate o.sleepSeconds "sleepSeconds" = .ok ())
    (reports : o.onSnapshot = MonitorLoop.reporter respond?) (s : Session σ) :
    (m.check view o s).outcome ≠ .unfinished := by
  have answers {α : Type} (e : Event) (respond : Responder σ α) : Concludes (ask e respond) :=
    concludes_of_ne (ask_ends e respond)
  refine (check_concludes (fun _ => ?_) (fun _ => ?_) ?_ ?_ (fun _ => ?_) (fun ms => ?_) view valid
    fun statuses => ?_).ends s
  case refine_6 =>
    rw [clockwork.sleeps]
    exact concludes_of_ne (pause_ends ms)
  case refine_7 =>
    rw [reports]
    cases respond? with
    | none => exact comes_pure fun _ _ => trivial
    | some respond => exact answers _ _
  all_goals
    rw [clockwork.backed]
    exact answers _ _

end Monitor

namespace MonitorLoop

/-- A loop over a backend that answers from outside. All sleeping is done by the clock. -/
structure Clockwork (l : MonitorLoop σ) (r : BackendResponder σ) : Prop where
  monitor : l.monitor.Clockwork r
  sleeps : l.sleep = Run.pause

/-- A rest sets one timer, for the pause between two checks, and calls nobody. -/
def RestsOnce (sleepSeconds : Binary64) (rest : Result σ Unit) : Prop :=
  ∃ lines interrupts,
    rest.events = lines ++ .timer (Delay.ofSeconds sleepSeconds) :: interrupts ∧
      (∀ e ∈ lines, e.isLine = true) ∧ ∀ e ∈ interrupts, ∃ name, e = Event.interrupt name

theorem RestsOnce.passing {sleepSeconds : Binary64} {rest : Result σ Unit}
    (h : RestsOnce sleepSeconds rest) : ∀ e ∈ rest.events, e.Passing := by
  obtain ⟨lines, interrupts, seen, lined, heard⟩ := h
  rw [seen]
  intro e listed
  rcases List.mem_append.mp listed with line | later
  · exact Event.passing_of_isLine (lined e line)
  · rcases List.mem_cons.mp later with rfl | interrupt
    · exact ⟨rfl, rfl⟩
    · obtain ⟨name, rfl⟩ := heard e interrupt
      exact ⟨rfl, rfl⟩

variable {l : MonitorLoop σ} {view : JobView} {o : WatchOptions σ} {s : Session σ}
  {r : BackendResponder σ} {respond? : Option (StatusMap → Responder σ Unit)}

theorem Clockwork.rest_apply (clockwork : l.Clockwork r) (o : WatchOptions σ) (s : Session σ) :
    ∃ lines, (∀ e ∈ lines, e.isLine = true) ∧
      l.rest o s =
        let sleep := Run.pause (Delay.ofSeconds o.sleepSeconds) s
        ⟨sleep.outcome, lines ++ sleep.events, sleep.session⟩ := by
  obtain ⟨lines, logs, lined⟩ := log_apply l.logger .info
    "found tasks in queues and/or tasks being processed" [] s
  refine ⟨lines, lined, ?_⟩
  rw [rest, clockwork.sleeps, Log.Logger.info, bind_returned (by rw [logs]), logs]

theorem Clockwork.clocked_rest (clockwork : l.Clockwork r) (o : WatchOptions σ) :
    Spans Clocked (l.rest o) := by
  refine composes_clocked.bind (composes_clocked.log _ _ _ _) fun _ => ?_
  rw [clockwork.sleeps]
  exact clocked_pause _

/-- A rest is slept through with the signal down all the time, or it is aborted. -/
theorem Clockwork.rest_cases (clockwork : l.Clockwork r) (o : WatchOptions σ) (s : Session σ) :
    (s.signal ≠ .raised ∧ (l.rest o s).outcome = .returned () ∧
        RestsOnce o.sleepSeconds (l.rest o s) ∧ (l.rest o s).session.signal ≠ .raised) ∨
      ((l.rest o s).outcome = .threw (.failure .aborted) ∧
        (l.rest o s).session.signal = .raised) := by
  obtain ⟨lines, lined, rests⟩ := clockwork.rest_apply o s
  rw [rests]
  rcases pause_cases (Delay.ofSeconds o.sleepSeconds) s with
    ⟨raised, none⟩ | ⟨down, ⟨later, seen, interrupts⟩, ⟨slept, still, _⟩ | ⟨aborted, raised⟩⟩
  · rw [none]
    exact Or.inr ⟨rfl, raised⟩
  · have once : RestsOnce o.sleepSeconds (⟨(Run.pause (Delay.ofSeconds o.sleepSeconds) s).outcome,
        lines ++ (Run.pause (Delay.ofSeconds o.sleepSeconds) s).events,
        (Run.pause (Delay.ofSeconds o.sleepSeconds) s).session⟩ : Result σ Unit) :=
      ⟨lines, later, congrArg (lines ++ ·) seen, lined, interrupts⟩
    exact Or.inl ⟨down, slept, once, still⟩
  · exact Or.inr ⟨aborted, raised⟩

theorem clocked_reporter (respond? : Option (StatusMap → Responder σ Unit)) (m : StatusMap) :
    Spans Clocked (reporter respond? m) := by
  cases respond? with
  | none => exact composes_clocked.pure ()
  | some respond => exact clocked_ask rfl _

theorem Clockwork.clocked_check (clockwork : l.Clockwork r) (view : JobView)
    (reports : o.report = reporter respond?) :
    Spans Clocked (l.monitor.check view (checkOptions o)) := by
  refine clockwork.monitor.clocked_check view fun statuses => ?_
  rw [checkOptions, reports]
  exact clocked_reporter respond? statuses

/-- As long as the rounds go on, the signal is down. -/
theorem Clockwork.rests_of_goesOn (clockwork : l.Clockwork r) {k : Nat}
    (goesOn : l.GoesOn view o s k) : ∀ i < k,
      (l.checkAt view o s i).session.signal ≠ .raised ∧
        RestsOnce o.sleepSeconds (l.restAt view o s i) ∧
        (l.sessionAt view o s (i + 1)).signal ≠ .raised := by
  intro i less
  have slept : (l.rest o (l.checkAt view o s i).session).outcome = .returned () :=
    (goesOn i less).2
  rcases clockwork.rest_cases o (l.checkAt view o s i).session with
    ⟨down, _, once, still⟩ | ⟨aborted, _⟩
  · exact ⟨down, once, still⟩
  · rw [slept] at aborted
    cases aborted

theorem Clockwork.readsOnce_of_goesOn (clockwork : l.Clockwork r)
    (reports : o.report = reporter respond?)
    (valid : Delay.validate o.sleepSeconds "sleepSeconds" = .ok ()) {n : Nat}
    (goesOn : l.GoesOn view o s n) (down : (l.checkAt view o s n).session.signal ≠ .raised) :
    ∀ k ≤ n, Monitor.ReadsOnce r respond? (o.statusQueues.getD view.relevantQueues)
      (l.sessionAt view o s k) (l.checkAt view o s k) := by
  intro k upTo
  have checked : (l.checkAt view o s k).session.signal ≠ .raised := by
    rcases Nat.lt_or_eq_of_le upTo with less | rfl
    · exact (clockwork.rests_of_goesOn goesOn k less).1
    · exact down
  have started : (l.sessionAt view o s k).signal ≠ .raised :=
    (clockwork.clocked_check view reports _).down checked
  exact clockwork.monitor.check_readsOnce (o := checkOptions o) respond? view valid reports started

/-- What rounds with one reading each leave behind. -/
theorem tally_trailAt {queues : List String} {n : Nat}
    (checks : ∀ k < n, Monitor.ReadsOnce r respond? queues (l.sessionAt view o s k)
      (l.checkAt view o s k))
    (rests : ∀ k < n, RestsOnce o.sleepSeconds (l.restAt view o s k)) :
    reads (l.trailAt view o s n) = List.replicate n queues ∧
      records (l.trailAt view o s n) = (List.range n).flatMap fun k => Monitor.handed respond?
        (r.queueStatus queues (l.sessionAt view o s k).outside).1.outcome := by
  induction n with
  | zero => exact ⟨rfl, rfl⟩
  | succ n ih =>
    have last := Nat.lt_succ_self n
    obtain ⟨read, recorded⟩ := ih (fun k less => checks k (Nat.lt_succ_of_lt less))
      fun k less => rests k (Nat.lt_succ_of_lt less)
    have passing := (rests n last).passing
    constructor
    · rw [trailAt_succ, reads_append, reads_append, read, (checks n last).reads_eq,
        reads_of_passing passing, List.append_nil, List.replicate_succ']
    · rw [trailAt_succ, records_append, records_append, recorded, (checks n last).records_eq,
        records_of_passing passing, List.append_nil, List.range_succ, List.flatMap_append,
        List.flatMap_singleton]

/-- A run whose signal stays down stops at the first check that does not find work. -/
theorem Clockwork.run_of_down (clockwork : l.Clockwork r) {limit n : Nat} (enough : n < limit)
    (down : (l.run limit view o s).session.signal ≠ .raised)
    (found : ∀ k < n, (l.checkAt view o s k).outcome = .returned true)
    (last : (l.checkAt view o s n).outcome ≠ .returned true) :
    l.GoesOn view o s n ∧ ∃ closing, (∀ e ∈ closing, e.isLine = true) ∧
      l.run limit view o s =
        let check := l.checkAt view o s n
        ⟨check.outcome.map fun _ => ⟨n + 1, check.session.now - s.now⟩,
          l.trailAt view o s n ++ check.events ++ closing, check.session⟩ := by
  obtain ⟨closing, came, lined⟩ := l.run_apply limit view o s
  obtain ⟨k, goesOn, stops⟩ := l.checkUntilIdle_stops view o s limit 0
  rw [came] at down ⊢
  generalize l.checkUntilIdle view o limit 0 s = checks at down stops ⊢
  cases stops with
  | cutOff used => exact absurd (goesOn n (used ▸ enough)).1 last
  | atRest left found' ends =>
    rcases clockwork.rest_cases o (l.checkAt view o s k).session with ⟨_, slept, _⟩ | ⟨_, raised⟩
    · exact absurd slept ends
    · exact absurd raised down
  | atCheck left ends =>
    obtain rfl : k = n := by
      rcases Nat.lt_trichotomy k n with less | same | more
      · exact absurd (found k less) ends
      · exact same
      · exact absurd (goesOn n more).1 last
    refine ⟨goesOn, closing, lined, ?_⟩
    rw [Outcome.map_map, Nat.zero_add]

/-- How a run goes that ends at the check after `n` others. -/
structure InRounds (l : MonitorLoop σ) (r : BackendResponder σ)
    (respond? : Option (StatusMap → Responder σ Unit)) (view : JobView) (o : WatchOptions σ)
    (s : Session σ) (n : Nat) (run : Result σ Summary) : Prop where
  /-- It makes these checks and one rest after each but the last, and nothing else but lines. -/
  trail : ∃ closing, run.events = l.trailAt view o s n ++ (l.checkAt view o s n).events ++ closing ∧
    ∀ e ∈ closing, e.isLine = true
  /-- Each check asks once for the status of the queues and hands the answer on before it asks for
  workers. -/
  checks : ∀ k ≤ n, Monitor.ReadsOnce r respond? (o.statusQueues.getD view.relevantQueues)
    (l.sessionAt view o s k) (l.checkAt view o s k)
  /-- Each rest sets one timer. -/
  rests : ∀ k < n, RestsOnce o.sleepSeconds (l.restAt view o s k)
  /-- No check starts beyond these. -/
  reads_eq : reads run.events = List.replicate (n + 1) (o.statusQueues.getD view.relevantQueues)
  /-- The reporter is given every reading that was answered, once and in order. -/
  records_eq : records run.events = (List.range (n + 1)).flatMap fun k =>
    Monitor.handed respond? (r.queueStatus (o.statusQueues.getD view.relevantQueues)
      (l.sessionAt view o s k).outside).1.outcome
  concluded : (l.checkAt view o s n).outcome ≠ .unfinished
  /-- It fails as the last check does, or else returns the number of checks and the time that all
  timers have taken. -/
  outcome : run.outcome = (l.checkAt view o s n).outcome.map fun _ => ⟨n + 1, slept run.events⟩

/-- If the first check that does not find work is the one after `n` others, and the signal stays
down, then a run makes just these checks and ends with the last of them. -/
theorem rounds_of_run (clockwork : l.Clockwork r) (reports : o.report = reporter respond?)
    (valid : Delay.validate o.sleepSeconds "sleepSeconds" = .ok ()) {limit n : Nat}
    (enough : n < limit) (down : (l.run limit view o s).session.signal ≠ .raised)
    (found : ∀ k < n, (l.checkAt view o s k).outcome = .returned true)
    (last : (l.checkAt view o s n).outcome ≠ .returned true) :
    l.InRounds r respond? view o s n (l.run limit view o s) := by
  obtain ⟨goesOn, closing, lined, came⟩ := clockwork.run_of_down enough down found last
  have down' : (l.checkAt view o s n).session.signal ≠ .raised := by
    rw [came] at down
    exact down
  have checks := clockwork.readsOnce_of_goesOn reports valid goesOn down'
  have rests : ∀ k < n, RestsOnce o.sleepSeconds (l.restAt view o s k) :=
    fun k less => (clockwork.rests_of_goesOn goesOn k less).2.1
  obtain ⟨read, recorded⟩ := tally_trailAt (fun k less => checks k (Nat.le_of_lt less)) rests
  have ended := checks n (Nat.le_refl n)
  have passing : ∀ e ∈ closing, e.Passing :=
    fun e listed => Event.passing_of_isLine (lined e listed)
  have clocked : Clocked s (l.run limit view o s).events (l.run limit view o s).session :=
    spans_run composes_clocked (clockwork.clocked_check view reports)
      (clockwork.clocked_rest o) limit s
  have now := clocked.clock down
  rw [came] at now ⊢
  constructor
  case trail => exact ⟨closing, rfl, lined⟩
  case checks => exact checks
  case rests => exact rests
  case reads_eq =>
    rw [reads_append, reads_append, read, ended.reads_eq, reads_of_passing passing,
      List.append_nil, List.replicate_succ']
  case records_eq =>
    rw [records_append, records_append, recorded, ended.records_eq, records_of_passing passing,
      List.append_nil, List.range_succ, List.flatMap_append, List.flatMap_singleton]
  case concluded =>
    exact clockwork.monitor.check_ends (o := checkOptions o) respond? view valid reports _
  case outcome =>
    have elapsed : (l.checkAt view o s n).session.now - s.now =
        slept (l.trailAt view o s n ++ (l.checkAt view o s n).events ++ closing) :=
      (congrArg (· - s.now) now).trans (Nat.add_sub_cancel_left _ _)
    exact congrArg (fun ms => (l.checkAt view o s n).outcome.map fun _ => Summary.mk (n + 1) ms)
      elapsed

/-- The first check finds a job, but no worker until its second look. The second check finds
neither a job nor a busy worker. -/
theorem rounds_of_run_twice :
    let busy : StatusMap := KeyedMap.empty.file "a" ⟨"a", 1, .zero⟩
    let idle : StatusMap := KeyedMap.empty.file "a" ⟨"a", .zero, .zero⟩
    let play : Play := { backend :=
      { queueStatus := [.ok busy, .ok idle], workerIdentifiers := [.ok [], .ok ["w@h"]] } }
    let l : MonitorLoop Play :=
      ⟨⟨Play.responder.backend, Log.Logger.silent, .all, Run.pause⟩, Log.Logger.silent, Run.pause⟩
    let accepts : StatusMap → Responder Play Unit := fun _ p => (⟨.ok (), false⟩, p)
    let o : WatchOptions Play := ⟨1, none, reporter (some accepts)⟩
    let s : Session Play := { Session.start 0 play with signal := .clear }
    let run := l.run 5 ⟨["a"], ["w"]⟩ o s
    run.outcome = .returned ⟨2, 2000⟩ ∧ reads run.events = [["a"], ["a"]] ∧
      records run.events = [busy, idle] := by
  intro busy idle play l accepts o s run
  have valid : Delay.validate 1 "sleepSeconds" = .ok () := by
    have fine : Delay.defect? 1 = none := by decide +kernel
    rw [Delay.validate, fine]
  have first : (l.checkAt ⟨["a"], ["w"]⟩ o s 0).outcome = .returned true :=
    Outcome.returned?_eq_some.mp (by decide +kernel)
  have second : (l.checkAt ⟨["a"], ["w"]⟩ o s 1).outcome = .returned false :=
    Outcome.returned?_eq_some.mp (by decide +kernel)
  have clockwork : l.Clockwork Play.responder := ⟨⟨rfl, rfl⟩, rfl⟩
  have found : ∀ k < 1, (l.checkAt ⟨["a"], ["w"]⟩ o s k).outcome = .returned true := by
    intro k less
    rw [Nat.lt_one_iff.mp less]
    exact first
  have last : (l.checkAt ⟨["a"], ["w"]⟩ o s 1).outcome ≠ .returned true := by
    rw [second]
    nofun
  have down : (l.run 5 ⟨["a"], ["w"]⟩ o s).session.signal ≠ .raised := by decide +kernel
  have few : 1 < 5 := by decide
  have reports : o.report = reporter (some accepts) := rfl
  have rounds := rounds_of_run clockwork reports valid few down found last
  have given : (List.range 2).flatMap (fun k => Monitor.handed (some accepts)
      (Play.responder.queueStatus ["a"]
        (l.sessionAt ⟨["a"], ["w"]⟩ o s k).outside).1.outcome) = [busy, idle] := by
    decide +kernel
  have time : slept run.events = 2000 := by decide +kernel
  refine ⟨?_, rounds.reads_eq, rounds.records_eq.trans given⟩
  have ended : run.outcome = (Outcome.returned false).map fun _ => ⟨2, slept run.events⟩ :=
    second ▸ rounds.outcome
  exact ended.trans (congrArg (fun ms => Outcome.returned (Summary.mk 2 ms)) time)

end MonitorLoop

end JobWatch
