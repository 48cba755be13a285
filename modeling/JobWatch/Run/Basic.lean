import JobWatch.Run.Session

/-!
Runs: computations that change a session, may throw, and leave a trail of events. The trail of
a run is what the run itself adds, so it does not depend on what happened before.
-/
namespace JobWatch

inductive Outcome (α : Type) where
  | returned (a : α)
  | threw (t : Thrown)
  /-- The run was cut off because it took more steps than it was given. -/
  | unfinished
deriving Repr

structure Result (σ α : Type) where
  outcome : Outcome α
  events : List Event
  session : Session σ

def Run (σ α : Type) : Type := Session σ → Result σ α

namespace Run

variable {σ α β : Type}

protected def pure (a : α) : Run σ α := fun s => ⟨.returned a, [], s⟩

protected def bind (x : Run σ α) (f : α → Run σ β) : Run σ β := fun s =>
  let r := x s
  match r.outcome with
  | .returned a =>
    let r' := f a r.session
    ⟨r'.outcome, r.events ++ r'.events, r'.session⟩
  | .threw t => ⟨.threw t, r.events, r.session⟩
  | .unfinished => ⟨.unfinished, r.events, r.session⟩

instance : Monad (Run σ) where
  pure := Run.pure
  bind := Run.bind

def throw (t : Thrown) : Run σ α := fun s => ⟨.threw t, [], s⟩

def fail (f : Failure) : Run σ α := throw (.failure f)

def unfinished : Run σ α := fun s => ⟨.unfinished, [], s⟩

/-- What the run comes to, whether it returns or throws. -/
def attempt (x : Run σ α) : Run σ (Except Thrown α) := fun s =>
  let r := x s
  match r.outcome with
  | .returned a => ⟨.returned (.ok a), r.events, r.session⟩
  | .threw t => ⟨.returned (.error t), r.events, r.session⟩
  | .unfinished => ⟨.unfinished, r.events, r.session⟩

def ofExcept : Except Thrown α → Run σ α
  | .ok a => pure a
  | .error t => throw t

/-- A check that may fail. -/
def require : Except Failure α → Run σ α
  | .ok a => pure a
  | .error f => fail f

/-- Runs `cleanup` after `x` however `x` ends. What `cleanup` throws takes the place of what `x`
came to. -/
def ensuring (x : Run σ α) (cleanup : Run σ Unit) : Run σ α := do
  let result ← x.attempt
  cleanup
  ofExcept result

def emit (e : Event) : Run σ Unit := fun s => ⟨.returned (), [e], s⟩

def session : Run σ (Session σ) := fun s => ⟨.returned s, [], s⟩

def modify (f : Session σ → Session σ) : Run σ Unit := fun s => ⟨.returned (), [], f s⟩

def outside : Run σ σ := fun s => ⟨.returned s.outside, [], s⟩

def modifyOutside (f : σ → σ) : Run σ Unit :=
  modify fun s => { s with outside := f s.outside }

def now : Run σ Nat := fun s => ⟨.returned s.now, [], s⟩

end Run

/-- An answer from outside. -/
structure Reply (α : Type) where
  outcome : Except Thrown α
  /-- The caller's signal is raised before the answer comes. -/
  aborts : Bool

/-- Someone who answers, depending on a state of their own. -/
abbrev Responder (σ α : Type) := σ → Reply α × σ

namespace Run

variable {σ α : Type}

/-- Asks someone outside and waits for the answer. -/
def ask (e : Event) (respond : Responder σ α) : Run σ α := fun s =>
  let (reply, outside) := respond s.outside
  let s := { s with outside }
  let s := if reply.aborts then s.raise else s
  match reply.outcome with
  | .ok a => ⟨.returned a, [e], s⟩
  | .error t => ⟨.threw t, [e], s⟩

end Run

end JobWatch
