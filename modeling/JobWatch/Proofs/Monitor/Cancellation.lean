import JobWatch.Proofs.Monitor.Rounds
import JobWatch.Proofs.Run.Chronicle

/-!
# Prompt cancellation

A run of checks is aborted at some moment: before it starts, while a call is under way, or during
a sleep. The main statement says what still happens then. Backend and reporter answer whatever
they like and may raise the signal with any answer; alarms may raise it during any sleep. Calls
take no time. The calls that a check may still make under a raised signal are not counted here.
-/

namespace JobWatch

open Run

variable {σ : Type}

/-- The backend beside a chronicle. -/
def Backend.chronicled (b : Backend σ) : Backend (Chronicled σ) where
  watchQueues queues := Run.chronicled (.called (.watchQueues queues)) (b.watchQueues queues)
  queueStatus queues := Run.chronicled (.called (.queueStatus queues)) (b.queueStatus queues)
  activeQueues := Run.chronicled (.called .activeQueues) b.activeQueues
  workerIdentifiers := Run.chronicled (.called .workerIdentifiers) b.workerIdentifiers
  workersProcessing queues :=
    Run.chronicled (.called (.workersProcessing queues)) (b.workersProcessing queues)
  dispose := Run.chronicled (.called .dispose) b.dispose
  health s := b.health s.outside

namespace Monitor

/-- The monitor beside a chronicle. It sleeps by the clock. -/
def chronicled (m : Monitor σ) : Monitor (Chronicled σ) :=
  ⟨m.backend.chronicled, m.logger, m.scope, Run.pauseNoting⟩

variable {m : Monitor σ} {r : BackendResponder σ}

theorem Clockwork.reflects (clockwork : m.Clockwork r) :
    Reflects Session.unchronicled m.chronicled m where
  logger := rfl
  scope := rfl
  read _ := mirrors_chronicled _ _
  watch _ := mirrors_chronicled _ _
  active := mirrors_chronicled _ _
  look := mirrors_chronicled _ _
  busy _ := mirrors_chronicled _ _
  sleep ms := by
    rw [clockwork.sleeps]
    exact mirrors_pauseNoting ms

/-- How a check fails: it heeds the signal, or the call noted last has failed, or the tenth look
for workers was in vain. -/
def Fails (expected : List String) (t : Thrown) (s : Session (Chronicled σ)) : Prop :=
  (t = .failure .aborted ∧ s.signal = .raised) ∨ s.outside.notes.getLast? = some (.failed t) ∨
    (t = .failure (.noWorkers expected (Binary64.ofNat 10)) ∧ looks s.outside.notes = 10)

theorem comes_noted {α : Type} (expected : List String) {begin : Note}
    (noAbort : sinceAbort? [begin] = none) (looked : Nat) {e : Event} {respond : Responder σ α} :
    Comes (fun s => (Prompt s ∧ looks s.outside.notes = looked) ∧
        (begin.begins = true → s.signal ≠ .raised))
      (Run.chronicled begin (ask e respond))
      (fun _ s => Prompt s ∧ looks s.outside.notes = begin.countLook looked)
      fun t s => Prompt s ∧ Fails expected t s :=
  (comes_call noAbort looked e respond).of_fails fun _ _ h => ⟨h.1, Or.inr (Or.inl h.2)⟩

/-- The parts of a check keep it prompt. -/
theorem Clockwork.delivers (clockwork : m.Clockwork r) (expected : List String) :
    m.chronicled.Delivers (fun looked s => Prompt s ∧ looks s.outside.notes = looked)
      fun t s => Prompt s ∧ Fails expected t s where
  aborted _ s holds raised := ⟨holds.1, Or.inl ⟨rfl, raised⟩⟩
  read looked queues := by
    rw [chronicled, Backend.chronicled, clockwork.backed]
    exact (comes_noted expected rfl looked).of_pre fun s holds => ⟨holds.1, fun _ => holds.2⟩
  watch looked queues := by
    rw [chronicled, Backend.chronicled, clockwork.backed]
    exact (comes_noted expected rfl looked).of_pre fun s holds => ⟨holds, nofun⟩
  active looked := by
    rw [chronicled, Backend.chronicled, clockwork.backed]
    exact (comes_noted expected rfl looked).of_pre fun s holds => ⟨holds, nofun⟩
  look looked := by
    rw [chronicled, Backend.chronicled, clockwork.backed]
    exact (comes_noted expected rfl looked).of_pre fun s holds => ⟨holds.1, fun _ => holds.2⟩
  busy looked queues := by
    rw [chronicled, Backend.chronicled, clockwork.backed]
    exact (comes_noted expected rfl looked).of_pre fun s holds => ⟨holds.1, nofun⟩
  sleep looked ms :=
    ((comes_pauseNoting looked ms).of_post fun _ _ holds => holds.1).of_fails
      fun _ _ h => ⟨h.1, Or.inl h.2⟩

end Monitor

namespace MonitorLoop

/-- The reporter beside a chronicle. -/
def reporterNoting (respond? : Option (StatusMap → Responder σ Unit)) (statuses : StatusMap) :
    Run (Chronicled σ) Unit :=
  match respond? with
  | none => pure ()
  | some respond =>
    Run.chronicled (.reported statuses) (Run.ask (.record statuses) (respond statuses))

/-- The loop beside a chronicle. It sleeps by the clock. -/
def chronicled (l : MonitorLoop σ) : MonitorLoop (Chronicled σ) :=
  ⟨l.monitor.chronicled, l.logger, Run.pauseNoting⟩

end MonitorLoop

def WatchOptions.chronicled (o : WatchOptions σ)
    (respond? : Option (StatusMap → Responder σ Unit)) : WatchOptions (Chronicled σ) :=
  ⟨o.sleepSeconds, o.statusQueues, MonitorLoop.reporterNoting respond?⟩

namespace MonitorLoop

variable {l : MonitorLoop σ} {view : JobView} {o : WatchOptions σ} {r : BackendResponder σ}
  {respond? : Option (StatusMap → Responder σ Unit)}

/-- Keeping the chronicle changes nothing about a run. -/
theorem Clockwork.mirrors_run (clockwork : l.Clockwork r) (reports : o.report = reporter respond?)
    (view : JobView) (limit : Nat) :
    Mirrors Session.unchronicled (l.chronicled.run limit view (o.chronicled respond?))
      (l.run limit view o) := by
  refine MonitorLoop.mirrors_run erases_unchronicled rfl ?_ ?_ limit
  · refine clockwork.monitor.reflects.check erases_unchronicled view rfl rfl fun statuses => ?_
    rw [show (checkOptions o).onSnapshot = reporter respond? from reports]
    cases respond? with
    | none => exact mirrors_pure ()
    | some respond => exact mirrors_chronicled _ _
  · refine (mirrors_log erases_unchronicled _ _ _ _).bind fun _ => ?_
    rw [clockwork.sleeps]
    exact mirrors_pauseNoting _

/-! ## Every run is prompt -/

theorem Clockwork.comes_check (clockwork : l.Clockwork r) (view : JobView)
    (respond? : Option (StatusMap → Responder σ Unit))
    (valid : Delay.validate o.sleepSeconds "sleepSeconds" = .ok ()) :
    Comes Prompt (l.chronicled.monitor.check view (checkOptions (o.chronicled respond?)))
      (fun _ => Prompt) fun t s => Prompt s ∧ Monitor.Fails view.expectedWorkers t s := by
  have delivers := clockwork.monitor.delivers view.expectedWorkers
  have inVain (s : Session (Chronicled σ))
      (holds : Prompt s ∧ looks s.outside.notes = Monitor.maxWorkerChecks) :
      Prompt s ∧ Monitor.Fails view.expectedWorkers
        (.failure (.noWorkers view.expectedWorkers (Binary64.ofNat Monitor.maxWorkerChecks))) s :=
    ⟨holds.1, Or.inr (Or.inr ⟨rfl, holds.2⟩)⟩
  have handOn (statuses : StatusMap) :
      Comes (fun s => Prompt s ∧ looks s.outside.notes = 0) (reporterNoting respond? statuses)
        (fun _ s => Prompt s ∧ looks s.outside.notes = 0)
        fun t s => Prompt s ∧ Monitor.Fails view.expectedWorkers t s := by
    cases respond? with
    | none => exact comes_pure fun _ holds => holds
    | some respond =>
      exact (Monitor.comes_noted _ rfl 0).of_pre fun s holds => ⟨holds, nofun⟩
  have checks := delivers.check (o := checkOptions (o.chronicled respond?)) inVain valid handOn
  exact (checks.of_pre fun s prompt => ⟨_, prompt, rfl⟩).of_post fun _ _ ⟨_, holds⟩ => holds.1

theorem comes_rest (l : MonitorLoop σ) (o : WatchOptions (Chronicled σ)) :
    Comes Prompt (l.chronicled.rest o) (fun _ => Prompt)
      fun t s => Prompt s ∧ t = .failure .aborted ∧ s.signal = .raised := by
  refine (comes_log _ _ _ _).bind fun _ s prompt => ?_
  by_cases raised : s.signal = .raised
  · have aborts : pauseNoting (Delay.ofSeconds o.sleepSeconds) s =
        ⟨.threw (.failure .aborted), [], s⟩ := by
      rw [pauseNoting, throwIfAborted_bind, if_pos raised]
    rw [show l.chronicled.sleep = pauseNoting from rfl, aborts]
    exact ⟨prompt, rfl, raised⟩
  · exact ((comes_pauseNoting _ _).of_post fun _ _ holds => holds.1.1) s ⟨⟨prompt, rfl⟩, raised⟩

/-- Rounds that go on keep a run prompt. -/
theorem Clockwork.prompt_sessionAt (clockwork : l.Clockwork r) (view : JobView)
    (respond? : Option (StatusMap → Responder σ Unit))
    (valid : Delay.validate o.sleepSeconds "sleepSeconds" = .ok ()) {s : Session (Chronicled σ)}
    (prompt : Prompt s) {k : Nat}
    (goesOn : l.chronicled.GoesOn view (o.chronicled respond?) s k) :
    Prompt (l.chronicled.sessionAt view (o.chronicled respond?) s k) := by
  induction k with
  | zero => exact prompt
  | succ k ih =>
    obtain ⟨found, slept⟩ := goesOn k (Nat.lt_succ_self k)
    have started := ih fun i less => goesOn i (Nat.lt_succ_of_lt less)
    have checked := (clockwork.comes_check view respond? valid).returned started found
    exact (l.comes_rest (o.chronicled respond?)).returned checked slept

/-- However a run stops, it is prompt. It fails only as a check or a rest does. -/
theorem Clockwork.prompt_run (clockwork : l.Clockwork r) (view : JobView)
    (respond? : Option (StatusMap → Responder σ Unit))
    (valid : Delay.validate o.sleepSeconds "sleepSeconds" = .ok ()) (limit : Nat)
    {s : Session (Chronicled σ)} (prompt : Prompt s) :
    let r := l.chronicled.run limit view (o.chronicled respond?) s
    Prompt r.session ∧
      ∀ t, r.outcome = .threw t → Monitor.Fails view.expectedWorkers t r.session := by
  obtain ⟨_, came, _⟩ := l.chronicled.run_apply limit view (o.chronicled respond?) s
  obtain ⟨k, goesOn, stops⟩ :=
    l.chronicled.checkUntilIdle_stops view (o.chronicled respond?) s limit 0
  have started := clockwork.prompt_sessionAt view respond? valid prompt goesOn
  have checks := clockwork.comes_check view respond? valid
  have rests := l.comes_rest (o.chronicled respond?)
  rw [came]
  generalize l.chronicled.checkUntilIdle view (o.chronicled respond?) limit 0 s = all at stops ⊢
  cases stops with
  | cutOff used => exact ⟨started, nofun⟩
  | atCheck left ends =>
    refine ⟨checks.anyway started (fun _ _ still => still) fun _ _ failed => failed.1, ?_⟩
    intro t threw
    exact (checks.threw started (Outcome.eq_threw_of_map (Outcome.eq_threw_of_map threw))).2
  | atRest left found ends =>
    have checked := checks.returned started found
    refine ⟨rests.anyway checked (fun _ _ still => still) fun _ _ failed => failed.1, ?_⟩
    intro t threw
    exact Or.inl (rests.threw checked (Outcome.eq_threw_of_map (Outcome.eq_threw_of_map threw))).2

/-! ## How an aborted run ends -/

/-- The signal is raised while a check is under way. -/
def InFlight (l : MonitorLoop σ) (view : JobView) (o : WatchOptions σ) (s : Session σ) (k : Nat) :
    Prop :=
  (l.sessionAt view o s k).signal ≠ .raised ∧ (l.checkAt view o s k).session.signal = .raised

/-- What a run comes to if its signal is raised during a check: an abort, unless the check has come
to an end of its own. -/
def endOfRun (checks durationMs : Nat) : Outcome Bool → Outcome Summary
  | .returned true => .threw (.failure .aborted)
  | .returned false => .returned ⟨checks, durationMs⟩
  | .threw t => .threw t
  | .unfinished => .unfinished

theorem endOfRun_of_ne {check : Outcome Bool} (ends : check ≠ .returned true)
    (checks durationMs : Nat) :
    check.map (fun _ => ⟨checks, durationMs⟩) = endOfRun checks durationMs check := by
  cases check with
  | returned active =>
    cases active with
    | true => exact absurd rfl ends
    | false => rfl
  | threw t => rfl
  | unfinished => rfl

theorem check_of_raised {m : Monitor σ} {o : CheckOptions σ} {s : Session σ}
    (valid : Delay.validate o.sleepSeconds "sleepSeconds" = .ok ()) (raised : s.signal = .raised) :
    (m.check view o s).outcome = .threw (.failure .aborted) := by
  rw [Monitor.check_eq, valid, require_ok_bind, throwIfAborted_bind, if_pos raised]

variable {s : Session σ}

theorem Clockwork.raised_after (clockwork : l.Clockwork r) (reports : o.report = reporter respond?)
    {k i : Nat} (raised : (l.sessionAt view o s k).signal = .raised) (later : k ≤ i) :
    (l.sessionAt view o s i).signal = .raised := by
  induction later with
  | refl => exact raised
  | step _ ih =>
    exact (clockwork.clocked_rest o _).keeps ((clockwork.clocked_check view reports _).keeps ih)

/-- If the signal is raised by the start of a check, but not at the end of any before, then it is
not raised during a check. -/
theorem Clockwork.not_inFlight (clockwork : l.Clockwork r) (reports : o.report = reporter respond?)
    {k : Nat} (before : ∀ i < k, (l.checkAt view o s i).session.signal ≠ .raised)
    (raised : (l.sessionAt view o s k).signal = .raised) : ∀ i, ¬ l.InFlight view o s i := by
  intro i inFlight
  by_cases less : i < k
  · exact before i less inFlight.2
  · exact inFlight.1 (clockwork.raised_after reports raised (Nat.le_of_not_lt less))

/-- A run whose signal is raised in the end comes to an abort if no check was under way, and else
to what that check makes of it. -/
theorem Clockwork.aborted_run (clockwork : l.Clockwork r) (reports : o.report = reporter respond?)
    (valid : Delay.validate o.sleepSeconds "sleepSeconds" = .ok ()) {limit : Nat}
    (allowed : 0 < limit) (raised : (l.run limit view o s).session.signal = .raised) :
    ((l.run limit view o s).outcome = .threw (.failure .aborted) ∧
        ∀ k, ¬ l.InFlight view o s k) ∨
      ∃ k, l.InFlight view o s k ∧
        (l.run limit view o s).outcome =
          endOfRun (k + 1) ((l.run limit view o s).session.now - s.now)
            (l.checkAt view o s k).outcome := by
  obtain ⟨closing, came, _⟩ := l.run_apply limit view o s
  obtain ⟨k, goesOn, stops⟩ := l.checkUntilIdle_stops view o s limit 0
  have rested := clockwork.rests_of_goesOn goesOn
  have before : ∀ i < k, (l.checkAt view o s i).session.signal ≠ .raised :=
    fun i less => (rested i less).1
  rw [came] at raised ⊢
  generalize l.checkUntilIdle view o limit 0 s = checks at raised stops
  cases stops with
  | cutOff used =>
    -- some round has gone on, and the rest at its end was slept through
    obtain ⟨i, rfl⟩ : ∃ i, k = i + 1 := ⟨k - 1, by omega⟩
    exact absurd raised (rested i (Nat.lt_succ_self i)).2.2
  | atCheck left ends =>
    by_cases started : (l.sessionAt view o s k).signal = .raised
    · have aborts : (l.checkAt view o s k).outcome = .threw (.failure .aborted) :=
        check_of_raised (o := checkOptions o) valid started
      refine Or.inl ⟨?_, clockwork.not_inFlight reports before started⟩
      rw [aborts]
      rfl
    · refine Or.inr ⟨k, ⟨started, raised⟩, ?_⟩
      rw [Outcome.map_map, Nat.zero_add]
      exact endOfRun_of_ne ends _ _
  | atRest left found ends =>
    have aborted : (l.restAt view o s k).outcome = .threw (.failure .aborted) := by
      rcases clockwork.rest_cases o (l.checkAt view o s k).session with
        ⟨_, slept, _⟩ | ⟨aborted, _⟩
      · exact absurd slept ends
      · exact aborted
    rw [aborted]
    by_cases checked : (l.checkAt view o s k).session.signal = .raised
    · refine Or.inr ⟨k, ⟨fun started => ?_, checked⟩, ?_⟩
      · have aborts : (l.checkAt view o s k).outcome = .threw (.failure .aborted) :=
          check_of_raised (o := checkOptions o) valid started
        rw [found] at aborts
        cases aborts
      · rw [found]
        rfl
    · refine Or.inl ⟨rfl, clockwork.not_inFlight (k := k + 1) reports ?_ raised⟩
      intro i less
      rcases Nat.lt_succ_iff_lt_or_eq.mp less with earlier | rfl
      · exact before i earlier
      · exact checked

/-- How a run ends of which there is a chronicle. -/
structure EndsPromptly (l : MonitorLoop σ) (limit : Nat) (view : JobView) (o : WatchOptions σ)
    (s : Session σ) (chronicle : List Note) : Prop where
  /-- If no abort is noted, the signal is down in the end. -/
  unaborted : sinceAbort? chronicle = none → (l.run limit view o s).session.signal ≠ .raised
  /-- Otherwise the run ends at the time of the abort, and since then no check, no look for workers
  and no timer has begun. -/
  stands : ∀ time later, sinceAbort? chronicle = some (time, later) →
    (l.run limit view o s).session.now = time ∧ ∀ n ∈ later, n.begins = false
  /-- It comes to an abort if no check was under way, or if that check finds work. If the check
  finds none, the run returns. If it fails, the run fails alike: because the check has heeded the
  signal, because its latest call has failed, or because its tenth look for workers was in vain. -/
  outcome : ∀ time later, sinceAbort? chronicle = some (time, later) →
    ((l.run limit view o s).outcome = .threw (.failure .aborted) ∧
        ∀ k, ¬ l.InFlight view o s k) ∨
      ∃ k, l.InFlight view o s k ∧ (l.checkAt view o s k).outcome ≠ .unfinished ∧
        (l.run limit view o s).outcome =
          endOfRun (k + 1) (time - s.now) (l.checkAt view o s k).outcome ∧
        ∀ t, (l.checkAt view o s k).outcome = .threw t →
          t = .failure .aborted ∨ chronicle.getLast? = some (.failed t) ∨
            t = .failure (.noWorkers view.expectedWorkers (Binary64.ofNat 10)) ∧
              looks chronicle = 10

/-- A run beside a chronicle does what the run does, and the run ends promptly: whenever its signal
is raised, and whatever backend and reporter answer. -/
theorem cancellation_is_prompt (clockwork : l.Clockwork r) (reports : o.report = reporter respond?)
    (valid : Delay.validate o.sleepSeconds "sleepSeconds" = .ok ()) {limit : Nat}
    (allowed : 0 < limit) (view : JobView) (s : Session σ) :
    let beside := l.chronicled.run limit view (o.chronicled respond?)
    Mirrors Session.unchronicled beside (l.run limit view o) ∧
      l.EndsPromptly limit view o s
        (beside (s.chronicled s.opening)).session.outside.notes := by
  intro beside
  let run := l.run limit view o
  have mirrors : Mirrors Session.unchronicled beside run :=
    clockwork.mirrors_run reports view limit
  refine ⟨mirrors, ?_⟩
  obtain ⟨outcome, _, session⟩ := mirrors (s.chronicled s.opening)
  change (beside (s.chronicled s.opening)).session.unchronicled = (run s).session at session
  obtain ⟨still, fails⟩ :=
    clockwork.prompt_run view respond? valid limit (prompt_opening s)
  rw [outcome] at fails
  unfold Monitor.Fails at fails
  unfold Prompt at still
  generalize (beside (s.chronicled s.opening)).session = ended at session fails still ⊢
  have stands (time : Nat) (later : List Note)
      (since : sinceAbort? ended.outside.notes = some (time, later)) :
      (run s).session.signal = .raised ∧ (run s).session.now = time ∧
        ∀ n ∈ later, n.begins = false := by
    rw [since] at still
    rw [← session]
    exact still
  constructor
  case unaborted =>
    intro since
    rw [since] at still
    rw [show l.run limit view o s = run s from rfl, ← session]
    exact still
  case stands => exact fun time later since => (stands time later since).2
  case outcome =>
    intro time later since
    obtain ⟨raised, now, _⟩ := stands time later since
    rcases clockwork.aborted_run reports valid allowed raised with alone | ⟨k, inFlight, ended⟩
    · exact Or.inl alone
    · change (run s).outcome = endOfRun (k + 1) ((run s).session.now - s.now) _ at ended
      rw [now] at ended
      refine Or.inr ⟨k, inFlight, ?_, ended, fun t threw => ?_⟩
      · exact clockwork.monitor.check_ends (o := checkOptions o) respond? view valid reports _
      · rw [threw] at ended
        rcases fails t ended with ⟨aborted, _⟩ | call | inVain
        · exact Or.inl aborted
        · exact Or.inr (Or.inl call)
        · exact Or.inr (Or.inr inVain)

/-- If the abort is noted last, a run that does not return comes to an abort, unless it has just
looked for workers for the tenth time. -/
theorem EndsPromptly.aborted {limit : Nat} {s : Session σ} {chronicle : List Note} {time : Nat}
    (ends : l.EndsPromptly limit view o s chronicle)
    (last : sinceAbort? chronicle = some (time, [])) (few : looks chronicle ≠ 10)
    (returned : (l.run limit view o s).outcome.returned? = none) :
    (l.run limit view o s).outcome = .threw (.failure .aborted) ∧
      (l.run limit view o s).session.now = time := by
  have now := (ends.stands time [] last).1
  rcases ends.outcome time [] last with alone | ⟨k, _, concluded, ended, own⟩
  · exact ⟨alone.1, now⟩
  · refine ⟨?_, now⟩
    cases came : (l.checkAt view o s k).outcome with
    | returned active =>
      rw [came] at ended
      cases active with
      | true => exact ended
      | false =>
        rw [ended] at returned
        cases returned
    | threw t =>
      rw [came] at ended
      rcases own t came with rfl | call | ⟨_, ten⟩
      · exact ended
      · rw [getLast?_of_sinceAbort? last] at call
        cases call
      · exact absurd ten few
    | unfinished => exact absurd came concluded

/-- The caller aborts while the run waits for workers, half a second into its first sleep. -/
theorem cancellation_is_prompt_while_waiting :
    let l : MonitorLoop Play :=
      ⟨⟨Play.responder.backend, Log.Logger.silent, .all, Run.pause⟩, Log.Logger.silent, Run.pause⟩
    let o : WatchOptions Play := ⟨1, none, reporter none⟩
    let s : Session Play := { (Session.start 0 {}).setAlarm 500 .abort with signal := .clear }
    let r := l.run 3 ⟨["a"], ["w"]⟩ o s
    r.outcome = .threw (.failure .aborted) ∧ r.session.now = 500 := by
  intro l o s r
  have valid : Delay.validate o.sleepSeconds "sleepSeconds" = .ok () := by
    have fine : Delay.defect? 1 = none := by decide +kernel
    rw [Delay.validate, fine]
  have clockwork : l.Clockwork Play.responder := ⟨⟨rfl, rfl⟩, rfl⟩
  have reports : o.report = reporter none := rfl
  have allowed : 0 < 3 := by decide
  obtain ⟨_, ends⟩ := cancellation_is_prompt clockwork reports valid allowed ⟨["a"], ["w"]⟩ s
  have last : (sinceAbort? (l.chronicled.run 3 ⟨["a"], ["w"]⟩ (o.chronicled none)
      (s.chronicled s.opening)).session.outside.notes).map (fun p => (p.1, p.2.length)) =
        some (500, 0) := by
    decide +kernel
  obtain ⟨⟨time, later⟩, since, same⟩ := Option.map_eq_some_iff.mp last
  obtain ⟨rfl, short⟩ := Prod.mk.inj same
  obtain rfl : later = [] := List.eq_nil_of_length_eq_zero short
  exact ends.aborted since (by decide +kernel) (by decide +kernel)

end MonitorLoop

end JobWatch
