import JobWatch.Backend.Basic
import JobWatch.Proofs.Run.Comes
import JobWatch.Proofs.Run.Mirrors
import JobWatch.Proofs.Run.Spans

/-!
# Runs beside a chronicle

The trail of a run does not tell when the caller's signal was raised. Here a run is carried out
beside a chronicle, in which every call and every timer is noted when it begins, the failure of a
call when it ends, and the abort in between, at its time. The chronicle is out of the run's reach.
What a call answers, and whether it raises the signal, is left open; alarms that raise it during a
sleep are noted as they go off.
-/

namespace JobWatch

/-- What is noted of a run. -/
inductive Note where
  | called (call : BackendCall)
  | reported (statuses : StatusMap)
  | slept (ms : Binary64)
  /-- The call noted last has failed. -/
  | failed (t : Thrown)
  /-- The caller's signal is raised. -/
  | aborted (time : Nat)

namespace Note

/-- A check, a look for workers or a timer begins. -/
def begins : Note → Bool
  | called (.queueStatus _) => true
  | called .workerIdentifiers => true
  | slept _ => true
  | _ => false

/-- The number of looks for workers since the latest check has begun. -/
def countLook (looks : Nat) : Note → Nat
  | called (.queueStatus _) => 0
  | called .workerIdentifiers => looks + 1
  | _ => looks

end Note

/-- How many looks for workers the latest check has made. -/
def looks (notes : List Note) : Nat := notes.foldl Note.countLook 0

theorem looks_append (notes more : List Note) :
    looks (notes ++ more) = more.foldl Note.countLook (looks notes) := List.foldl_append

/-- The time of the abort, and what has been noted since. -/
def sinceAbort? : List Note → Option (Nat × List Note)
  | [] => none
  | .aborted time :: later => some (time, later)
  | _ :: rest => sinceAbort? rest

theorem sinceAbort?_append (notes more : List Note) :
    sinceAbort? (notes ++ more) =
      match sinceAbort? notes with
      | some (time, later) => some (time, later ++ more)
      | none => sinceAbort? more := by
  induction notes with
  | nil => rfl
  | cons note rest ih =>
    cases note with
    | aborted time => rfl
    | called call => exact ih
    | reported statuses => exact ih
    | slept ms => exact ih
    | failed t => exact ih

/-- If nothing has been noted since the abort, it has been noted last. -/
theorem getLast?_of_sinceAbort? {notes : List Note} {time : Nat}
    (since : sinceAbort? notes = some (time, [])) : notes.getLast? = some (.aborted time) := by
  induction notes with
  | nil => cases since
  | cons note rest ih =>
    have further (since : sinceAbort? rest = some (time, [])) :
        (note :: rest).getLast? = some (.aborted time) := by
      rw [List.getLast?_cons, ih since, Option.getD_some]
    cases note with
    | aborted noted =>
      cases since
      rfl
    | called call => exact further since
    | reported statuses => exact further since
    | slept ms => exact further since
    | failed t => exact further since

/-- What stands outside a run, and what has been noted so far. -/
structure Chronicled (σ : Type) where
  outside : σ
  notes : List Note

namespace Session

variable {σ : Type}

def chronicled (s : Session σ) (notes : List Note) : Session (Chronicled σ) :=
  ⟨s.now, s.signal, s.alarms, s.listening, s.files, ⟨s.outside, notes⟩⟩

def unchronicled (s : Session (Chronicled σ)) : Session σ :=
  ⟨s.now, s.signal, s.alarms, s.listening, s.files, s.outside.outside⟩

/-- The chronicle that a session starts with. -/
def opening (s : Session σ) : List Note := if s.signal = .raised then [.aborted s.now] else []

end Session

namespace Run

variable {σ α : Type}

/-- The abort, if it falls between two moments. -/
def abortNote (before : Signal) (after : Session σ) : List Note :=
  if before ≠ .raised ∧ after.signal = .raised then [.aborted after.now] else []

def failNote : Outcome α → List Note
  | .threw t => [.failed t]
  | _ => []

/-- A call beside a chronicle. -/
def chronicled (begin : Note) (x : Run σ α) : Run (Chronicled σ) α := fun s =>
  let r := x s.unchronicled
  ⟨r.outcome, r.events, r.session.chronicled
    (s.outside.notes ++ (begin :: (abortNote s.signal r.session ++ failNote r.outcome)))⟩

/-- Heeds the signal during a sleep beside a chronicle. -/
def heedNoting : Run (Chronicled σ) Unit := fun s =>
  if s.signal = .raised then
    ⟨.threw (.failure .aborted), [],
      s.unchronicled.chronicled (s.outside.notes ++ [.aborted s.now])⟩
  else ⟨.returned (), [], s⟩

/-- Sleeps by the clock beside a chronicle. -/
def pauseNoting (ms : Binary64) : Run (Chronicled σ) Unit := do
  throwIfAborted
  chronicled (.slept ms) (emit (.timer ms))
  let s ← session
  waitUntil heedNoting (s.now + Delay.effective ms) s.alarms.length

/-! ## Erasing the chronicle -/

theorem erases_unchronicled :
    Erases (Session.unchronicled : Session (Chronicled σ) → Session σ) :=
  ⟨fun _ => rfl, fun _ => rfl⟩

theorem mirrors_chronicled (begin : Note) (x : Run σ α) :
    Mirrors Session.unchronicled (chronicled begin x) x := fun _ => ⟨rfl, rfl, rfl⟩

theorem mirrors_heedNoting :
    Mirrors Session.unchronicled (heedNoting : Run (Chronicled σ) Unit) throwIfAborted := by
  intro s
  by_cases raised : s.signal = .raised
  · simp [heedNoting, throwIfAborted, Session.unchronicled, Session.chronicled, raised]
  · simp [heedNoting, throwIfAborted, Session.unchronicled, raised]

theorem ring_unchronicled (s : Session (Chronicled σ)) (a : Alarm) :
    (s.unchronicled.ring a).1 = (s.ring a).1.unchronicled ∧
      (s.unchronicled.ring a).2 = (s.ring a).2 := by
  cases a with
  | abort => exact ⟨rfl, rfl⟩
  | interrupt name =>
    by_cases heard : name ∈ s.listening
    · have heard' : name ∈ s.unchronicled.listening := heard
      rw [Session.ring, Session.ring, if_pos heard, if_pos heard']
      exact ⟨rfl, rfl⟩
    · have heard' : name ∉ s.unchronicled.listening := heard
      rw [Session.ring, Session.ring, if_neg heard, if_neg heard']
      exact ⟨rfl, rfl⟩

theorem mirrors_waitUntil (due alarms : Nat) :
    Mirrors Session.unchronicled (waitUntil heedNoting due alarms : Run (Chronicled σ) Unit)
      (waitUntil throwIfAborted due alarms) := by
  induction alarms with
  | zero => exact fun _ => ⟨rfl, rfl, rfl⟩
  | succ alarms ih =>
    intro s
    unfold waitUntil
    rw [show s.unchronicled.alarms = s.alarms from rfl]
    cases firstDue? due s.alarms with
    | none => exact ⟨rfl, rfl, rfl⟩
    | some first =>
      obtain ⟨time, alarm⟩ := first
      let woken : Session (Chronicled σ) :=
        { s with now := max s.now time, alarms := s.alarms.erase (time, alarm) }
      obtain ⟨rung, heard⟩ := ring_unchronicled woken alarm
      obtain ⟨outcome, events, session⟩ :=
        (mirrors_heedNoting.bind fun _ => ih) (woken.ring alarm).1
      rw [← rung] at outcome events session
      exact ⟨outcome, congr (congrArg (· ++ ·) heard.symm) events, session⟩

theorem mirrors_pauseNoting (ms : Binary64) :
    Mirrors Session.unchronicled (pauseNoting ms : Run (Chronicled σ) Unit) (pause ms) := by
  refine (mirrors_throwIfAborted erases_unchronicled).bind fun _ =>
    (mirrors_chronicled _ _).bind fun _ s => ?_
  exact mirrors_waitUntil (s.now + Delay.effective ms) s.alarms.length s

/-! ## Promptness -/

/-- While the signal is down, no abort has been noted. Once it is raised, the clock has stood still
since the abort, and nothing has begun since. -/
def Prompt (s : Session (Chronicled σ)) : Prop :=
  match sinceAbort? s.outside.notes with
  | none => s.signal ≠ .raised
  | some (time, later) => s.signal = .raised ∧ s.now = time ∧ ∀ n ∈ later, n.begins = false

theorem prompt_opening (s : Session σ) : Prompt (s.chronicled s.opening) := by
  unfold Prompt Session.opening
  by_cases raised : s.signal = .raised
  · rw [if_pos raised]
    exact ⟨raised, rfl, List.forall_mem_nil _⟩
  · rw [if_neg raised]
    exact raised

theorem Prompt.of_down {s : Session (Chronicled σ)} (h : Prompt s) (down : s.signal ≠ .raised) :
    sinceAbort? s.outside.notes = none := by
  unfold Prompt at h
  cases since : sinceAbort? s.outside.notes with
  | none => rfl
  | some abort =>
    rw [since] at h
    exact absurd h.1 down

theorem begins_failNote (o : Outcome α) : ∀ n ∈ failNote o, n.begins = false := by
  cases o with
  | threw t => exact List.forall_mem_singleton.mpr rfl
  | returned a => exact List.forall_mem_nil _
  | unfinished => exact List.forall_mem_nil _

theorem sinceAbort?_failNote (o : Outcome α) : sinceAbort? (failNote o) = none := by
  cases o <;> rfl

/-- A call keeps a run prompt if it begins nothing while the signal is raised. -/
theorem Prompt.call {s : Session (Chronicled σ)} (h : Prompt s) {begin : Note}
    (noAbort : sinceAbort? [begin] = none) (allowed : begin.begins = true → s.signal ≠ .raised)
    (e : Event) (respond : Responder σ α) :
    Prompt (chronicled begin (ask e respond) s).session := by
  let after := answered respond s.unchronicled
  let outcome := (ask e respond s.unchronicled).outcome
  have ends : (chronicled begin (ask e respond) s).session =
      after.chronicled (s.outside.notes ++ (begin :: (abortNote s.signal after ++
        failNote outcome))) := by
    simp only [chronicled, ask_session, after, outcome]
  have next (more : List Note) : sinceAbort? (begin :: more) = sinceAbort? more := by
    rw [← List.singleton_append, sinceAbort?_append, noAbort]
  rw [ends]
  unfold Prompt at h ⊢
  rw [show (after.chronicled (s.outside.notes ++ (begin :: (abortNote s.signal after ++
      failNote outcome)))).outside.notes = s.outside.notes ++ (begin :: (abortNote s.signal after ++
      failNote outcome)) from rfl, sinceAbort?_append]
  cases since : sinceAbort? s.outside.notes with
  | none =>
    rw [since] at h
    dsimp only
    rw [next, sinceAbort?_append]
    by_cases raised : after.signal = .raised
    · rw [abortNote, if_pos ⟨h, raised⟩]
      exact ⟨raised, rfl, begins_failNote outcome⟩
    · rw [abortNote, if_neg fun abort => raised abort.2, sinceAbort?]
      dsimp only
      rw [sinceAbort?_failNote]
      exact raised
  | some abort =>
    obtain ⟨time, later⟩ := abort
    rw [since] at h
    obtain ⟨raised, stands, quiet⟩ := h
    have silent : begin.begins = false := by
      cases begins : begin.begins with
      | false => rfl
      | true => exact absurd raised (allowed begins)
    have still : after.signal = .raised := answered_raised (s := s.unchronicled) raised
    have stands' : after.now = time := (answered_now respond s.unchronicled).trans stands
    refine ⟨still, stands', ?_⟩
    rw [abortNote, if_neg fun abort => abort.1 raised, List.nil_append]
    intro n listed
    rcases List.mem_append.mp listed with before | now
    · exact quiet n before
    · rcases List.mem_cons.mp now with rfl | failed
      · exact silent
      · exact begins_failNote outcome n failed

theorem looks_chronicled (begin : Note) (x : Run σ α) (s : Session (Chronicled σ)) :
    looks (chronicled begin x s).session.outside.notes =
      begin.countLook (looks s.outside.notes) := by
  have uncounted (n : Nat) (before : Signal) (after : Session σ) (o : Outcome α) :
      (abortNote before after ++ failNote o).foldl Note.countLook n = n := by
    unfold abortNote
    split <;> cases o <;> rfl
  exact (looks_append _ _).trans (uncounted _ _ _ _)

/-- A call that fails is noted as the last one to fail. -/
theorem getLast?_of_threw {begin : Note} {x : Run σ α} {s : Session (Chronicled σ)} {t : Thrown}
    (threw : (chronicled begin x s).outcome = .threw t) :
    (chronicled begin x s).session.outside.notes.getLast? = some (.failed t) := by
  have came : (x s.unchronicled).outcome = .threw t := threw
  change (s.outside.notes ++ (begin :: (abortNote s.signal (x s.unchronicled).session ++
    failNote (x s.unchronicled).outcome))).getLast? = _
  rw [came, failNote, ← List.cons_append, ← List.append_assoc]
  exact List.getLast?_concat

/-- A call keeps a run prompt, and counts as a look if it is one. If it fails, this is noted
last. -/
theorem comes_call {begin : Note} (noAbort : sinceAbort? [begin] = none) (n : Nat) (e : Event)
    (respond : Responder σ α) :
    Comes (fun s => (Prompt s ∧ looks s.outside.notes = n) ∧
        (begin.begins = true → s.signal ≠ .raised))
      (chronicled begin (ask e respond))
      (fun _ s => Prompt s ∧ looks s.outside.notes = begin.countLook n)
      fun t s => Prompt s ∧ s.outside.notes.getLast? = some (.failed t) := by
  rintro s ⟨⟨prompt, looked⟩, allowed⟩
  have still := prompt.call noAbort allowed e respond
  have counted := looks_chronicled begin (ask e respond) s
  rw [looked] at counted
  cases came : (chronicled begin (ask e respond) s).outcome with
  | returned a => exact ⟨still, counted⟩
  | threw t => exact ⟨still, getLast?_of_threw came⟩
  | unfinished => exact absurd came (ask_ends e respond s.unchronicled)

/-! ## Sleeping -/

theorem heedNoting_bind (f : Unit → Run (Chronicled σ) α) (s : Session (Chronicled σ)) :
    (heedNoting >>= f) s =
      if s.signal = .raised then
        ⟨.threw (.failure .aborted), [],
          s.unchronicled.chronicled (s.outside.notes ++ [.aborted s.now])⟩
      else f () s := by
  by_cases raised : s.signal = .raised
  · rw [if_pos raised, bind_threw (t := .failure .aborted) (by simp [heedNoting, raised])]
    simp [heedNoting, raised]
  · have goes : heedNoting s = ⟨.returned (), [], s⟩ := by simp [heedNoting, raised]
    rw [if_neg raised, bind_returned (by rw [goes]), goes, List.nil_append]

/-- A sleep ends with the signal down, and nothing noted, or with the abort noted, at the time at
which it ends. -/
theorem waitUntil_noting (due alarms : Nat) {s : Session (Chronicled σ)}
    (down : s.signal ≠ .raised) :
    let r := waitUntil heedNoting due alarms s
    (r.outcome = .returned () ∧ r.session.signal ≠ .raised ∧ r.session.outside = s.outside) ∨
      (r.outcome = .threw (.failure .aborted) ∧ r.session.signal = .raised ∧
        r.session.outside.notes = s.outside.notes ++ [.aborted r.session.now]) := by
  induction alarms generalizing s with
  | zero => exact Or.inl ⟨rfl, down, rfl⟩
  | succ alarms ih =>
    unfold waitUntil
    cases firstDue? due s.alarms with
    | none => exact Or.inl ⟨rfl, down, rfl⟩
    | some first =>
      obtain ⟨time, alarm⟩ := first
      dsimp only
      let woken : Session (Chronicled σ) :=
        { s with now := max s.now time, alarms := s.alarms.erase (time, alarm) }
      have outside : (woken.ring alarm).1.outside = s.outside := ring_outside woken alarm
      change
        let r := (heedNoting >>= fun _ => waitUntil heedNoting due alarms) (woken.ring alarm).1
        (r.outcome = .returned () ∧ r.session.signal ≠ .raised ∧
            r.session.outside = s.outside) ∨
          (r.outcome = .threw (.failure .aborted) ∧ r.session.signal = .raised ∧
            r.session.outside.notes = s.outside.notes ++ [.aborted r.session.now])
      rw [heedNoting_bind]
      by_cases raised : (woken.ring alarm).1.signal = .raised
      · rw [if_pos raised, outside]
        exact Or.inr ⟨rfl, raised, rfl⟩
      · rw [if_neg raised, ← outside]
        exact ih raised

/-- What comes of a sleep that begins with the signal down. -/
theorem pauseNoting_cases (ms : Binary64) {s : Session (Chronicled σ)}
    (down : s.signal ≠ .raised) :
    let r := pauseNoting ms s
    (r.outcome = .returned () ∧ r.session.signal ≠ .raised ∧
        r.session.outside.notes = s.outside.notes ++ [.slept ms]) ∨
      (r.outcome = .threw (.failure .aborted) ∧ r.session.signal = .raised ∧
        r.session.outside.notes = s.outside.notes ++ [.slept ms, .aborted r.session.now]) := by
  let set := (chronicled (.slept ms) (emit (.timer ms)) s).session
  have notes : set.outside.notes = s.outside.notes ++ [.slept ms] := by
    have unchanged : ¬ (s.signal ≠ .raised ∧ s.unchronicled.signal = .raised) :=
      fun abort => abort.1 abort.2
    change s.outside.notes ++ (.slept ms :: (abortNote s.signal s.unchronicled ++ [])) = _
    rw [abortNote, if_neg unchanged, List.nil_append]
  have waits : pauseNoting ms s =
      let r := waitUntil heedNoting (set.now + Delay.effective ms) set.alarms.length set
      ⟨r.outcome, .timer ms :: r.events, r.session⟩ := by
    rw [pauseNoting, throwIfAborted_bind, if_neg down]
    rfl
  rw [waits]
  rcases waitUntil_noting (set.now + Delay.effective ms) set.alarms.length (s := set) down with
    ⟨slept, still, same⟩ | ⟨aborted, raised, noted⟩
  · exact Or.inl ⟨slept, still, (congrArg Chronicled.notes same).trans notes⟩
  · refine Or.inr ⟨aborted, raised, noted.trans ?_⟩
    rw [notes, List.append_assoc]
    rfl

/-- Sleeping keeps a run prompt, and is only cut short by the abort. -/
theorem comes_pauseNoting (n : Nat) (ms : Binary64) :
    Comes (fun s : Session (Chronicled σ) =>
        (Prompt s ∧ looks s.outside.notes = n) ∧ s.signal ≠ .raised)
      (pauseNoting ms)
      (fun _ s => (Prompt s ∧ looks s.outside.notes = n) ∧ s.signal ≠ .raised)
      fun t s => Prompt s ∧ t = .failure .aborted ∧ s.signal = .raised := by
  rintro s ⟨⟨prompt, looked⟩, down⟩
  have none := prompt.of_down down
  rcases pauseNoting_cases ms down with ⟨slept, still, noted⟩ | ⟨aborted, raised, noted⟩
  · rw [slept]
    refine ⟨⟨?_, ?_⟩, still⟩
    · unfold Prompt
      rw [noted, sinceAbort?_append, none]
      exact still
    · rw [noted, looks_append, looked]
      rfl
  · rw [aborted]
    refine ⟨?_, rfl, raised⟩
    unfold Prompt
    rw [noted, sinceAbort?_append, none]
    exact ⟨raised, rfl, List.forall_mem_nil _⟩

end Run

end JobWatch
