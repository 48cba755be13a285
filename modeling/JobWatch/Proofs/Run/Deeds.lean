import JobWatch.Proofs.Run.Ends
import JobWatch.Proofs.Run.Spans

/-!
# What a run does

The deeds of a run are its calls, what it hands on and its sleeps, in order; lines on the console
and interrupts from outside are none. What is told of a run here are its deeds, what it comes to and
what it makes of the state outside. Nothing is told of runs that are aborted.
-/

namespace JobWatch

inductive Deed where
  | calls (call : BackendCall)
  | callsBroker (call : BrokerCall)
  | handsOn (statuses : StatusMap)
  | sleeps (ms : Binary64)
deriving DecidableEq, Repr

def Event.deed? : Event → Option Deed
  | .console _ _ _ => none
  | .timer ms => some (.sleeps ms)
  | .sleep ms _ => some (.sleeps ms)
  | .broker call => some (.callsBroker call)
  | .backend call => some (.calls call)
  | .snapshot statuses => some (.handsOn statuses)
  | .record statuses => some (.handsOn statuses)
  | .interrupt _ => none

def deeds (events : List Event) : List Deed := events.filterMap Event.deed?

theorem deeds_append (xs ys : List Event) : deeds (xs ++ ys) = deeds xs ++ deeds ys :=
  List.filterMap_append

theorem deeds_eq_nil {events : List Event} (none : ∀ e ∈ events, e.deed? = none) :
    deeds events = [] := List.filterMap_eq_nil_iff.mpr none

theorem deeds_of_lines {lines : List Event} (lined : ∀ e ∈ lines, e.isLine = true) :
    deeds lines = [] := by
  refine deeds_eq_nil fun e listed => ?_
  cases e with
  | console => rfl
  | _ => cases lined _ listed

/-- Asked in the state `w`, they answer so and are in the state `w'` from then on. -/
def Responder.Replies {σ α : Type} (respond : Responder σ α) (w : σ) (answer : Except Thrown α)
    (w' : σ) : Prop :=
  (respond w).1.outcome = answer ∧ (respond w).2 = w'

/-- What may be told of a run: of the state outside at its start, its deeds, what it comes to, and
the state outside at its end. -/
abbrev Tale (σ α : Type) := σ → List Deed → Outcome α → σ → Prop

namespace Run

variable {σ α β : Type}

/-- The tale is true of the run unless it is aborted by its end. An abort is not taken back. -/
structure Unaborted (x : Run σ α) (tale : Tale σ α) : Prop where
  keeps : ∀ s, s.signal = .raised → (x s).session.signal = .raised
  holds : ∀ s, (x s).session.signal ≠ .raised →
    tale s.outside (deeds (x s).events) (x s).outcome (x s).session.outside

/-- Unless it is aborted, the run returns with the deeds done and the state outside unchanged. -/
def Leaves (done : List Deed) (x : Run σ Unit) : Prop :=
  Unaborted x fun w ds o w' => ds = done ∧ o = .returned () ∧ w' = w

variable {tale : Tale σ α}

theorem unaborted_pure {a : α} (h : ∀ w, tale w [] (.returned a) w) :
    Unaborted (pure a) tale :=
  ⟨fun _ raised => raised, fun s _ => h s.outside⟩

theorem unaborted_fail {f : Failure} (h : ∀ w, tale w [] (.threw (.failure f)) w) :
    Unaborted (fail f) tale :=
  ⟨fun _ raised => raised, fun s _ => h s.outside⟩

theorem Unaborted.imp {x : Run σ α} {tale' : Tale σ α} (h : Unaborted x tale)
    (tells : ∀ w ds o w', tale w ds o w' → tale' w ds o w') : Unaborted x tale' :=
  ⟨h.keeps, fun s down => tells _ _ _ _ (h.holds s down)⟩

/-- A tale of a sequence, from tales of its parts. -/
theorem Unaborted.bind {x : Run σ α} {f : α → Run σ β} {tale' : Tale σ β} (hx : Unaborted x tale)
    (returned : ∀ a, Unaborted (f a) fun w' ds' o w'' =>
      ∀ w ds, tale w ds (.returned a) w' → tale' w (ds ++ ds') o w'')
    (threw : ∀ w ds t w', tale w ds (.threw t) w' → tale' w ds (.threw t) w')
    (unfinished : ∀ w ds w', tale w ds .unfinished w' → tale' w ds .unfinished w') :
    Unaborted (x >>= f) tale' := by
  constructor
  · intro s raised
    have first := hx.keeps s raised
    cases came : (x s).outcome with
    | returned a =>
      rw [bind_returned came]
      exact (returned a).keeps _ first
    | threw t =>
      rw [bind_threw came]
      exact first
    | unfinished =>
      rw [bind_unfinished came]
      exact first
  · intro s down
    cases came : (x s).outcome with
    | returned a =>
      rw [bind_returned came] at down ⊢
      have first : (x s).session.signal ≠ .raised :=
        fun raised => down ((returned a).keeps _ raised)
      have told := hx.holds s first
      rw [came] at told
      rw [deeds_append]
      exact (returned a).holds _ down _ _ told
    | threw t =>
      rw [bind_threw came] at down ⊢
      have told := hx.holds s down
      rw [came] at told
      exact threw _ _ _ _ told
    | unfinished =>
      rw [bind_unfinished came] at down ⊢
      have told := hx.holds s down
      rw [came] at told
      exact unfinished _ _ _ told

theorem Leaves.bind {done : List Deed} {x : Run σ Unit} {f : Unit → Run σ α}
    (hx : Leaves done x) (hf : Unaborted (f ()) fun w ds o w' => tale w (done ++ ds) o w') :
    Unaborted (x >>= f) tale := by
  refine Unaborted.bind hx (fun _ => hf.imp ?_) ?_ ?_
  · rintro w ds o w' told _ _ ⟨rfl, _, rfl⟩
    exact told
  · rintro _ _ _ _ ⟨_, ended, _⟩
    cases ended
  · rintro _ _ _ ⟨_, ended, _⟩
    cases ended

theorem unaborted_ask {e : Event} {d : Deed} (isDeed : e.deed? = some d)
    {respond : Responder σ α} :
    Unaborted (ask e respond) fun w ds o w' => ds = [d] ∧
      ((∃ a, respond.Replies w (.ok a) w' ∧ o = .returned a) ∨
        ∃ t, respond.Replies w (.error t) w' ∧ o = .threw t) := by
  have alone : deeds [e] = [d] := by rw [deeds, List.filterMap_cons_some isDeed, List.filterMap_nil]
  refine ⟨fun s raised => ask_session e respond s ▸ answered_raised raised, fun s _ => ?_⟩
  refine ⟨by rw [ask_events, alone], ?_⟩
  have after := (answered_outside respond s).symm
  cases answer : (respond s.outside).1.outcome with
  | ok a =>
    rw [ask_ok answer]
    exact Or.inl ⟨a, ⟨answer, after⟩, rfl⟩
  | error t =>
    rw [ask_error answer]
    exact Or.inr ⟨t, ⟨answer, after⟩, rfl⟩

/-- What comes after a call begins with the call, unless the call fails. -/
theorem unaborted_ask_bind {e : Event} {d : Deed} (isDeed : e.deed? = some d)
    {respond : Responder σ α} {f : α → Run σ β} {tale' : Tale σ β}
    (fails : ∀ w t w', respond.Replies w (.error t) w' → tale' w [d] (.threw t) w')
    (gives : ∀ a, Unaborted (f a) fun w' ds o w'' =>
      ∀ w, respond.Replies w (.ok a) w' → tale' w (d :: ds) o w'') :
    Unaborted (ask e respond >>= f) tale' := by
  refine (unaborted_ask isDeed).bind (fun a => (gives a).imp ?_) ?_ ?_
  · rintro w' ds o w'' told w _ ⟨rfl, ⟨_, given, ⟨⟩⟩ | ⟨_, _, ended⟩⟩
    · exact told w given
    · cases ended
  · rintro w _ t w' ⟨rfl, ⟨_, _, ended⟩ | ⟨_, failed, ⟨⟩⟩⟩
    · cases ended
    · exact fails w t w' failed
  · rintro w _ w' ⟨_, ⟨_, _, ended⟩ | ⟨_, _, ended⟩⟩ <;> cases ended

theorem leaves_throwIfAborted : Leaves [] (throwIfAborted : Run σ Unit) := by
  refine ⟨fun s raised => by simp [throwIfAborted, raised], fun s down => ?_⟩
  by_cases raised : s.signal = .raised
  · exact absurd (by simp [throwIfAborted, raised]) down
  · have goes : throwIfAborted s = ⟨.returned (), [], s⟩ := by simp [throwIfAborted, raised]
    rw [goes]
    exact ⟨rfl, rfl, rfl⟩

theorem leaves_log (l : Log.Logger) (level : Log.Level) (message : String)
    (details : List Detail) : Leaves [] (l.log level message details : Run σ Unit) := by
  constructor
  · intro s raised
    obtain ⟨lines, logs, _⟩ := log_apply l level message details s
    rw [logs]
    exact raised
  · intro s _
    obtain ⟨lines, logs, lined⟩ := log_apply l level message details s
    rw [logs]
    exact ⟨deeds_of_lines lined, rfl, rfl⟩

/-! ## Ways to sleep -/

theorem leaves_pause (ms : Binary64) : Leaves [.sleeps ms] (pause ms : Run σ Unit) := by
  refine ⟨fun s => (bystander_pause ms s.outside).keeps s, fun s down => ?_⟩
  rcases pause_cases ms s with ⟨raised, none⟩ | ⟨_, ⟨later, seen, interrupts⟩, ended⟩
  · exact absurd (none ▸ raised) down
  · have slept : deeds (pause ms s).events = [.sleeps ms] := by
      have quiet : deeds later = [] := deeds_eq_nil fun e listed => by
        obtain ⟨name, rfl⟩ := interrupts e listed
        rfl
      rw [seen, deeds, List.filterMap_cons_some (show Event.deed? (.timer ms) = _ from rfl)]
      exact congrArg _ quiet
    rcases ended with ⟨returned, _⟩ | ⟨_, raised⟩
    · have still := (bystander_pause ms s.outside).meets s rfl down
      rw [returned] at still
      exact ⟨slept, returned, still⟩
    · exact absurd raised down

theorem leaves_delegateSleep (ms : Binary64) :
    Leaves [.sleeps ms] (delegateSleep ms : Run σ Unit) :=
  ⟨fun _ raised => raised, fun _ _ => ⟨rfl, rfl, rfl⟩⟩

end Run

end JobWatch
