import JobWatch.Proofs.Monitor.Walk
import JobWatch.Proofs.Run.Audit
import JobWatch.Script

/-!
# Queries after an abort

A check looks at the caller's signal before it reads anything, before each look for workers and
before it asks whether a worker is busy. It does not look between its first two queries. The main
statement says exactly when a check starts a query although the signal is raised, and which one.
Backend, callback and sleep are arbitrary runs: each may fail, and raise the signal at any time.
-/

namespace JobWatch

variable {σ : Type}

/-- The backend beside a ledger of its queries. Watching queues is no query. -/
def Backend.audited (b : Backend σ) : Backend (Audited σ) where
  watchQueues queues := (b.watchQueues queues).audited
  queueStatus queues := Run.noted (.queueStatus queues) (b.queueStatus queues)
  activeQueues := Run.noted .activeQueues b.activeQueues
  workerIdentifiers := Run.noted .workerIdentifiers b.workerIdentifiers
  workersProcessing queues := Run.noted (.workersProcessing queues) (b.workersProcessing queues)
  dispose := b.dispose.audited
  health s := b.health s.outside

def CheckOptions.audited (o : CheckOptions σ) : CheckOptions (Audited σ) :=
  ⟨o.sleepSeconds, o.statusQueues, fun statuses => (o.onSnapshot statuses).audited⟩

namespace Monitor

open Run

def audited (m : Monitor σ) : Monitor (Audited σ) :=
  ⟨m.backend.audited, m.logger, m.scope, fun ms => (m.sleep ms).audited⟩

/-- The queries that a check starts, in order, each with the signal at its start. -/
def queries (m : Monitor σ) (view : JobView) (o : CheckOptions σ) (s : Session σ) : List Query :=
  (m.audited.check view o.audited (s.audited [])).session.outside.ledger

/-! ## The audited check is the check -/

theorem reflects_audited (m : Monitor σ) : Reflects Session.unaudited m.audited m where
  logger := rfl
  scope := rfl
  read _ := shadows_noted _ _
  watch _ := shadows_audited _
  active := shadows_noted _ _
  look := shadows_noted _ _
  busy _ := shadows_noted _ _
  sleep _ := shadows_audited _

theorem shadows_readBacklog (m : Monitor σ) (view : JobView) (o : CheckOptions σ) :
    Shadows (m.audited.readBacklog view o.audited) (m.readBacklog view o) :=
  m.reflects_audited.readBacklog erases_unaudited view rfl fun _ => shadows_audited _

/-- Keeping the ledger changes nothing about a check. -/
theorem shadows_check (m : Monitor σ) (view : JobView) (o : CheckOptions σ) :
    Shadows (m.audited.check view o.audited) (m.check view o) :=
  m.reflects_audited.check erases_unaudited view rfl rfl fun _ => shadows_audited _

/-! ## Which queries are late -/

/-- After the two readings, every query comes right after a look at the signal. -/
theorem startsNoneLate_conclude (m : Monitor σ) (view : JobView) (o : CheckOptions σ)
    (statuses : StatusMap) (snapshot : ActiveSnapshot) :
    StartsNoneLate (m.audited.conclude view o.audited statuses snapshot) := by
  have composes := composes_startsNoneLate (σ := σ)
  have leads : m.audited.Leads fun s _ s' => late s'.outside.ledger = late s.outside.ledger :=
    { look := startsNoneLate_guarded _ _
      busy := fun _ => startsNoneLate_guarded _ _
      sleep := fun _ => composes.bind composes.throwIfAborted fun _ => startsNoneLate_audited _ }
  exact leads.conclude composes view o.audited statuses snapshot

/-- The backlog is read with the signal down, and the signal is raised by the time it has been
read and handed on. -/
def AbortsWhileReading (m : Monitor σ) (view : JobView) (o : CheckOptions σ) (s : Session σ) :
    Prop :=
  Delay.validate o.sleepSeconds "sleepSeconds" = .ok () ∧ s.signal ≠ .raised ∧
    (∃ statuses, (m.readBacklog view o s).outcome = .returned statuses) ∧
    (m.readBacklog view o s).session.signal = .raised

/-- Reading the backlog starts a query, but no late one if the signal is down to begin with. -/
theorem late_readBacklog (m : Monitor σ) (view : JobView) (o : CheckOptions σ)
    {s : Session (Audited σ)} (down : s.signal ≠ .raised) :
    late (m.audited.readBacklog view o.audited s).session.outside.ledger =
      late s.outside.ledger := by
  have first : late (m.audited.readBacklog view o.audited s).session.outside.ledger = late
      (s.outside.ledger ++ [⟨.queueStatus (o.statusQueues.getD view.relevantQueues), s.signal⟩]) :=
    late_noted_bind (fun statuses =>
      composes_startsNoneLate.bind (composes_startsNoneLate.log _ _ _ _) fun _ =>
        composes_startsNoneLate.bind (startsNoneLate_audited (o.onSnapshot statuses)) fun _ =>
          composes_startsNoneLate.bind (startsNoneLate_audited (m.backend.watchQueues _)) fun _ =>
            composes_startsNoneLate.pure statuses) s
  rw [first, late_concat, if_neg down]

/-- From the reading of the backlog on, the query of who is at work is the only one that can be
late, and it is if the backlog was read with the signal up in the end. -/
theorem late_from_readBacklog (m : Monitor σ) (view : JobView) (o : CheckOptions σ)
    {s : Session σ} (down : s.signal ≠ .raised) :
    late ((do
        let statuses ← m.audited.readBacklog view o.audited
        let snapshot ← m.audited.backend.activeQueues
        m.audited.conclude view o.audited statuses snapshot)
      (s.audited [])).session.outside.ledger =
      match (m.readBacklog view o s).outcome with
      | .returned _ =>
        if (m.readBacklog view o s).session.signal = .raised then [⟨.activeQueues, .raised⟩] else []
      | _ => [] := by
  obtain ⟨outcome, _, session⟩ := m.shadows_readBacklog view o (s.audited [])
  change _ = (m.readBacklog view o s).outcome at outcome
  change _ = (m.readBacklog view o s).session at session
  have before : late (m.audited.readBacklog view o.audited (s.audited [])).session.outside.ledger
      = [] := m.late_readBacklog view o down
  cases h : (m.readBacklog view o s).outcome with
  | returned statuses =>
    have signal : (m.audited.readBacklog view o.audited (s.audited [])).session.signal =
        (m.readBacklog view o s).session.signal := congrArg Session.signal session
    rw [bind_returned (outcome.trans h)]
    refine (late_noted_bind (fun snapshot => m.startsNoneLate_conclude view o statuses snapshot)
      (m.audited.readBacklog view o.audited (s.audited [])).session).trans ?_
    rw [late_concat, before, signal]
    by_cases raised : (m.readBacklog view o s).session.signal = .raised <;> simp [raised]
  | threw t =>
    rw [bind_threw (outcome.trans h)]
    exact before
  | unfinished =>
    rw [bind_unfinished (outcome.trans h)]
    exact before

/-- A check that is refused at once starts no query at all. -/
theorem queries_of_refused (m : Monitor σ) (view : JobView) (o : CheckOptions σ) {s : Session σ}
    (refused : Delay.validate o.sleepSeconds "sleepSeconds" ≠ .ok () ∨ s.signal = .raised) :
    m.queries view o s = [] := by
  rw [queries, check_eq, show o.audited.sleepSeconds = o.sleepSeconds from rfl]
  cases valid : Delay.validate o.sleepSeconds "sleepSeconds" with
  | error f =>
    rw [require_error_bind]
    rfl
  | ok u =>
    have raised : (s.audited []).signal = .raised := refused.resolve_left fun h => h valid
    rw [require_ok_bind, throwIfAborted_bind, if_pos raised]
    rfl

theorem late_queries (m : Monitor σ) (view : JobView) (o : CheckOptions σ) {s : Session σ}
    (valid : Delay.validate o.sleepSeconds "sleepSeconds" = .ok ()) (down : s.signal ≠ .raised) :
    late (m.queries view o s) =
      match (m.readBacklog view o s).outcome with
      | .returned _ =>
        if (m.readBacklog view o s).session.signal = .raised then [⟨.activeQueues, .raised⟩] else []
      | _ => [] := by
  have still : (s.audited []).signal ≠ .raised := down
  rw [← m.late_from_readBacklog view o down, queries, check_eq,
    show o.audited.sleepSeconds = o.sleepSeconds from rfl, valid, require_ok_bind,
    throwIfAborted_bind, if_neg still]

theorem late_queries_cases (m : Monitor σ) (view : JobView) (o : CheckOptions σ) (s : Session σ) :
    (m.AbortsWhileReading view o s ∧ late (m.queries view o s) = [⟨.activeQueues, .raised⟩]) ∨
      (¬ m.AbortsWhileReading view o s ∧ late (m.queries view o s) = []) := by
  by_cases refused : Delay.validate o.sleepSeconds "sleepSeconds" ≠ .ok () ∨ s.signal = .raised
  · refine Or.inr ⟨fun aborts => ?_, by rw [m.queries_of_refused view o refused, late_nil]⟩
    exact refused.elim (fun h => h aborts.1) aborts.2.1
  · obtain ⟨valid, down⟩ := not_or.mp refused
    have valid := Classical.not_not.mp valid
    rw [m.late_queries view o valid down]
    cases h : (m.readBacklog view o s).outcome with
    | returned statuses =>
      by_cases raised : (m.readBacklog view o s).session.signal = .raised
      · exact Or.inl ⟨⟨valid, down, ⟨statuses, h⟩, raised⟩, if_pos raised⟩
      · exact Or.inr ⟨fun aborts => raised aborts.2.2.2, if_neg raised⟩
    | threw t => exact Or.inr ⟨by simp [AbortsWhileReading, h], rfl⟩
    | unfinished => exact Or.inr ⟨by simp [AbortsWhileReading, h], rfl⟩

/-- A check beside a ledger does what the check does. It starts no query under a raised signal
except in one case: when the signal is raised while the backlog is read or handed on, and nothing
fails, the query of who is at work is still started. No other query follows it then. -/
theorem late_query_iff (m : Monitor σ) (view : JobView) (o : CheckOptions σ) (s : Session σ) :
    Shadows (m.audited.check view o.audited) (m.check view o) ∧
      ((∀ q ∈ m.queries view o s, q.signal ≠ .raised) ↔ ¬ m.AbortsWhileReading view o s) ∧
      (m.AbortsWhileReading view o s → late (m.queries view o s) = [⟨.activeQueues, .raised⟩]) := by
  refine ⟨m.shadows_check view o, ?_⟩
  rw [← late_eq_nil_iff]
  rcases m.late_queries_cases view o s with ⟨aborts, one⟩ | ⟨aborts, noneLate⟩
  · simp [aborts, one]
  · simp [aborts, noneLate]

/-- The caller aborts while the first query is pending, and the second one is started. -/
theorem query_started_after_abort :
    let m : Monitor Play := ⟨Play.responder.backend, Log.Logger.silent, .all, Run.pause⟩
    let s : Session Play := { Session.start 0 { abortAt := some 1 } with signal := .clear }
    m.queries ⟨["a"], ["w"]⟩ ⟨1, none, fun _ => pure ()⟩ s =
      [⟨.queueStatus ["a"], .clear⟩, ⟨.activeQueues, .raised⟩] := by
  decide +kernel

end Monitor

end JobWatch
