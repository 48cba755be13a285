import JobWatch.Command.Program
import JobWatch.Proofs.Watcher.Upkeep
import JobWatch.Script

/-!
# The number a program exits with

Once a service has been set up, the program does what it is told and then cleans up. The main
statement says which number it exits with: that of its command, unless a handle cannot be closed,
and then that of the failure to close it. What the connection has to say to being closed plays no
part. A run of checks that never ends has no exit code, and nothing is said about it.
-/

namespace JobWatch

/-- The number for what a command has come to, if it has come to an end. -/
def Outcome.exitCode? : Outcome Unit → Option Nat
  | returned _ => some Exit.success
  | threw t => some t.exitCode
  | unfinished => none

namespace Command

open Run

variable {β : Type}

/-- What comes before the command: the spec is read, the service set up, and interrupts are heard
from then on. -/
def prepare (s : Setting β) (a : Args) : Run (Service β) (Job.Spec × Watcher β) := do
  let spec ← loadSpec a.specPath
  let queues ← Run.require (spec.queues [Job.everyStep])
  let watcher ← Watcher.create s.broker (a.config queues)
  listen
  return (spec, watcher)

/-- The command without the cleaning up. -/
def command (s : Setting β) (a : Args) : Run (Service β) Unit := do
  let (spec, watcher) ← prepare s a
  perform s a spec watcher

theorem run_eq (s : Setting β) (a : Args) :
    run s a = (do
      let p ← prepare s a
      (perform s a p.1 p.2).ensuring do
        stopListening
        p.2.shutdown) := by
  simp only [run, prepare, bind_assoc, pure_bind]

variable {s : Setting β} {a : Args} {start : Session (Service β)}

theorem quiet_loadSpec {σ : Type} (path : String) : Quiet (loadSpec path : Run σ Job.Spec) := by
  refine quiet_session.bind fun here => ?_
  cases here.files.read path with
  | ok source => exact quiet_require _
  | error f => exact quiet_fail _

theorem quiet_listen : Quiet (listen : Run (Service β) Unit) := quiet_modify fun _ => rfl

theorem keeps_prepare_live (s : Setting β) (a : Args) :
    Keeps (Always Service.IsLive) (prepare s a) :=
  (quiet_loadSpec _ _).bind fun _ => (quiet_require _ _).bind fun _ =>
    (Watcher.keeps_create_live s.broker _).bind fun _ =>
      (quiet_listen _).bind fun _ => quiet_pure _ _

/-- The service works with a backend over the queues of the program's broker. -/
theorem isOver_of_prepare {p : Job.Spec × Watcher β}
    (prepared : (prepare s a start).outcome = .returned p) :
    ∃ b manager, p.2.IsOver s.broker b manager := by
  obtain ⟨spec, _, prepared, _⟩ := returned_of_bind prepared
  obtain ⟨queues, _, prepared, _⟩ := returned_of_bind prepared
  obtain ⟨watcher, created, prepared, _⟩ := returned_of_bind prepared
  obtain ⟨_, _, prepared, _⟩ := returned_of_bind prepared
  cases prepared
  exact Watcher.isOver_of_create created

section Working

variable {w : Watcher β}

/-- A command leads where its service's backend, its sleeps and the writing of files lead. -/
theorem spans_perform {R : Session (Service β) → List Event → Session (Service β) → Prop}
    (composes : Composes R) {backend : Backend (Service β)} (guides : backend.Guides R)
    (works : w.WorksWith backend) (pauses : ∀ ms, Spans R (pause ms))
    (filed : ∀ (s : Session (Service β)) files, R s [] { s with files })
    (s : Setting β) (a : Args) (spec : Job.Spec) : Spans R (perform s a spec w) := by
  have printed (line : String) : Spans R (printLine line) := fun s => composes.line s _ _ _
  have recorded (m : StatusMap) : Spans R (recordIfNamed (β := β) a.csvFile m) := by
    rw [recordIfNamed]
    cases a.csvFile.filter (· ≠ "") with
    | none => exact composes.pure ()
    | some file =>
      refine composes.bind (fun s => composes.still s) fun here => ?_
      cases Report.recordIn file here.now m here.files with
      | ok files => exact fun s => filed s files
      | error f => exact composes.fail _
  rw [perform]
  cases a.verb with
  | status =>
    exact composes.bind (Watcher.spans_queryStatus composes guides works _ _) fun statuses =>
      composes.bind (printed _) fun _ => recorded statuses
  | monitor =>
    exact composes.bind (composes.require _) fun _ => composes.bind
      (Watcher.spans_monitorUntilIdle composes guides works pauses _ _ _ recorded) fun _ =>
        printed _
  | workers =>
    refine composes.bind (Watcher.spans_queryWorkers composes guides works _) fun workers => ?_
    by_cases none : workers.isEmpty = true
    · simp only [if_pos none]
      exact printed _
    · simp only [if_neg none]
      exact printed _

/-- A command keeps what the uses of its service's backend keep. -/
theorem keeps_perform {I : List BrokerCall → Service β → Prop} {b : QueueBackend β}
    (works : w.WorksWith b.backend) (moves : b.Moves I) (s : Setting β) (a : Args)
    (spec : Job.Spec) : Keeps I (perform s a spec w) := by
  refine keeps_iff_spans.mpr (spans_perform (composes_upheld I) moves.guides works
    (fun ms => keeps_iff_spans.mp (quiet_pause ms I)) (fun s files past holds => ?_) s a spec)
  rwa [brokerCalls_nil, List.append_nil]

end Working

/-- What the first handle that cannot be closed fails with when everything a command has left open
is closed. -/
def closingFault? (s : Setting β) (w : Service β) : Option Thrown :=
  s.broker.closeFault? w.broker w.pool.handles

/-- The cleaning up comes to what closing the handles comes to. -/
theorem cleanup_outcome {p : Job.Spec × Watcher β} (live : start.outside.IsLive)
    (prepared : (prepare s a start).outcome = .returned p) :
    ((do
      stopListening
      p.2.shutdown) (command s a start).session).outcome =
        .ofFault? (closingFault? s (command s a start).session.outside) := by
  obtain ⟨b, _, parts⟩ := isOver_of_prepare prepared
  -- nothing on the way disposes of the backend, so it is left to the shutdown
  have ready : (prepare s a start).session.outside.IsLive := keeps_prepare_live s a [] start live
  have ended : (command s a start).session.outside.IsLive := by
    rw [command, bind_returned prepared]
    exact keeps_perform parts.works b.moves_live s a p.1 [] _ ready
  rw [closingFault?, ← parts.asks]
  exact parts.works.shutdown_outcome ended

/-- What a program makes of what its run has come to. -/
def signOff (s : Setting β) : Except Thrown Unit → Run (Service β) Nat
  | .ok _ => return Exit.success
  | .error t => do
    emit (.console .error (Report.painted s.coloured .red "Error:")
      [.value (.text t.describe)])
    return t.exitCode

theorem execute_eq {argv : List String} (accepted : parse s.url argv = .ok a) :
    execute s argv = (do signOff s (← (run s a).attempt)) := by
  simp only [execute, accepted]
  refine congrArg ((run s a).attempt >>= ·) (funext fun result => ?_)
  cases result <;> rfl

/-- The program exits with the number for what its run has come to. -/
theorem execute_returned? {argv : List String} (accepted : parse s.url argv = .ok a)
    (start : Session (Service β)) :
    (execute s argv start).outcome.returned? = (run s a start).outcome.exitCode? := by
  rw [execute_eq accepted]
  cases came : (run s a start).outcome with
  | returned u =>
    rw [bind_returned (attempt_returned came)]
    rfl
  | threw t =>
    rw [bind_returned (attempt_threw came)]
    rfl
  | unfinished =>
    rw [bind_unfinished (attempt_unfinished came)]
    rfl

/-- A failure in cleaning up decides about the number, whatever comes before it. -/
theorem ensuring_exitCode? {σ : Type} {x cleanup : Run σ Unit} {here : Session σ}
    {fault : Option Thrown}
    (cleaned : (cleanup (x here).session).outcome = .ofFault? fault) :
    ((x.ensuring cleanup) here).outcome.exitCode? =
      (x here).outcome.exitCode?.map fun code => (fault.map Thrown.exitCode).getD code := by
  cases fault with
  | none =>
    rw [ensuring_of_returned cleaned]
    exact Option.map_id'.symm
  | some t =>
    cases ended : (x here).outcome with
    | unfinished =>
      rw [ensuring_of_unfinished cleanup ended]
      rfl
    | returned u =>
      rw [ensuring_of_threw (by rw [ended]; nofun) cleaned]
      rfl
    | threw t' =>
      rw [ensuring_of_threw (by rw [ended]; nofun) cleaned]
      rfl

theorem run_exitCode? {p : Job.Spec × Watcher β} (live : start.outside.IsLive)
    (prepared : (prepare s a start).outcome = .returned p) :
    (run s a start).outcome.exitCode? = (command s a start).outcome.exitCode?.map fun code =>
      ((closingFault? s (command s a start).session.outside).map Thrown.exitCode).getD code := by
  have cleaned := cleanup_outcome live prepared
  have did : command s a start = _ := bind_returned prepared
  rw [run_eq, bind_returned prepared]
  rw [did] at cleaned ⊢
  exact ensuring_exitCode? cleaned

/-- A program whose service has been set up exits with the number of its command, unless a handle
cannot be closed in cleaning up; then it exits with the number for the failure to close it,
whatever its command has come to. So the number of the command is the one that is exited with
exactly if there is no such failure, or one with the same number. -/
theorem exit_code_of_command (s : Setting β) (argv : List String) (a : Args)
    (start : Session (Service β)) (accepted : parse s.url argv = .ok a)
    (live : start.outside.IsLive)
    (prepared : (prepare s a start).outcome.returned?.isSome = true) :
    let done := command s a start
    let fault := closingFault? s done.session.outside
    (execute s argv start).outcome.returned? =
        done.outcome.exitCode?.map (fun code => (fault.map Thrown.exitCode).getD code) ∧
      ∀ code, done.outcome.exitCode? = some code →
        ((execute s argv start).outcome.returned? = some code ↔
          ∀ t, fault = some t → t.exitCode = code) := by
  intro done fault
  obtain ⟨p, came⟩ : ∃ p, (prepare s a start).outcome = .returned p := by
    cases came : (prepare s a start).outcome with
    | returned p => exact ⟨p, rfl⟩
    | threw t =>
      rw [came] at prepared
      cases prepared
    | unfinished =>
      rw [came] at prepared
      cases prepared
  have exited := (execute_returned? accepted start).trans (run_exitCode? live came)
  refine ⟨exited, fun code ended => ?_⟩
  rw [exited, ended]
  cases failed : closingFault? s (command s a start).session.outside with
  | none => simp [fault, done, failed]
  | some t => simp [fault, done, failed]

/-- A working folder with the spec of a job of one step. -/
def nightly : Folder :=
  .ofList [("spec.yaml", some (Text.join "\n"
    ["name: nightly", "steps:", "  - name: extract", "    queue: a", "workers:", "  - name: w",
      "    steps: all"]))]

/-- What the program makes of being asked for the status of that job. -/
def statusOfNightly : Args where
  verb := .status
  specPath := "spec.yaml"
  steps := [Job.everyStep]
  csvFile := none
  queues := none
  workerPattern := none
  sleepSeconds := 60
  redisUrl := "redis://localhost:6379"
  keyPrefix := none
  logLevel := .info

/-- A queue cannot be read, and neither can the client say goodbye. The program exits with the
number for the first of the two. -/
theorem exit_code_of_command_of_failing_quit :
    let gone : Thrown := .failure (.plain "gone")
    let play : Play := { queues := [("a", { counts := [.error gone] })], quit := [.error gone] }
    let s : Setting Play := ⟨Play.broker, false, none, 10⟩
    let start := Session.start 0 (Service.start Link.waiting play)
    (execute s ["status", "spec.yaml"] { start with files := nightly }).outcome.returned? =
      some Exit.unreachable := by
  intro gone play s start
  have exited := exit_code_of_command s ["status", "spec.yaml"] statusOfNightly
    { start with files := nightly } (by decide +kernel) ⟨rfl, rfl⟩ (by decide +kernel)
  rw [exited.1]
  decide +kernel

/-- The table has been printed, but the handle cannot be closed. The program exits with another
number than its command. -/
theorem exit_code_of_failing_close :
    let boom : Thrown := .failure (.plain "boom")
    let play : Play := { queues := [("a", { closing := [.error boom] })] }
    let s : Setting Play := ⟨Play.broker, false, none, 10⟩
    let start := Session.start 0 (Service.start Link.waiting play)
    parse s.url ["status", "spec.yaml"] = .ok statusOfNightly ∧
      (command s statusOfNightly { start with files := nightly }).outcome.exitCode? =
        some Exit.success ∧
      (execute s ["status", "spec.yaml"] { start with files := nightly }).outcome.returned? =
        some Exit.failed := by
  decide +kernel

end Command

end JobWatch
