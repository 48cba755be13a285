import JobWatch.Monitor.Liveness
import JobWatch.Proofs.Backend.Roster
import JobWatch.Proofs.Backend.Steady
import JobWatch.Proofs.Run.Spans
import JobWatch.Script

/-!
# Recognising the workers that are expected

A worker's connection carries the worker's name behind a marker, and what is read back is the text
behind the last marker. So a name comes back whole exactly if no marker begins in it, nor on the
colon before it. The main statement says for which names every worker that is connected to a known
queue is recognised among those expected. It is not said who else may be taken for such a worker,
and the encoding of the queue in a connection's name is left open.
-/

namespace JobWatch

variable {β : Type}

/-- What stands between the queue and the worker in the name of a connection. -/
def workerMarker : String := ":w:"

/-- What the connection of a named worker is called, with some encoding of its queue. -/
def connectionName (encode : String → String) (keyPrefix queue name : String) : String :=
  keyPrefix ++ ":" ++ encode queue ++ workerMarker ++ name

/-- Another marker begins in the name, or on the colon before it. -/
def MarksAgain (name : String) : Prop := Text.contains (":" ++ name) workerMarker = true

instance (name : String) : Decidable (MarksAgain name) := inferInstanceAs (Decidable (_ = true))

theorem marksAgain_iff {name : String} :
    MarksAgain name ↔ [':', 'w', ':'] <:+: ':' :: name.toList := by
  rw [MarksAgain, Text.contains_iff, String.toList_append]
  rfl

namespace WorkerClient

variable {encode : String → String} {keyPrefix queue name : String} {c : WorkerClient}

theorem rawName_toList (raw : c.rawName = connectionName encode keyPrefix queue name) :
    ∃ lead : List Char, c.rawName.toList = lead ++ ([':', 'w', ':'] ++ name.toList) := by
  refine ⟨(keyPrefix ++ ":" ++ encode queue).toList, ?_⟩
  rw [raw, connectionName, workerMarker, String.toList_append, String.toList_append,
    List.append_assoc]
  rfl

theorem workerName_of_split {before after : List Char}
    (split : Text.splitLast [':', 'w', ':'] c.rawName.toList = some (before, after))
    (some' : after ≠ []) : c.workerName = String.ofList after := by
  rw [workerName, show ":w:".toList = [':', 'w', ':'] from rfl, split]
  cases after with
  | nil => exact absurd rfl some'
  | cons x rest => rfl

theorem workerName_of_nothing {before : List Char}
    (split : Text.splitLast [':', 'w', ':'] c.rawName.toList = some (before, []))
    (nameless : c.id = "") : c.workerName = "worker-unknown" := by
  rw [workerName, show ":w:".toList = [':', 'w', ':'] from rfl, split, nameless]
  rfl

/-- A name without a marker is read back as it is. -/
theorem workerName_of_plain (raw : c.rawName = connectionName encode keyPrefix queue name)
    (named : name ≠ "") (plain : ¬ MarksAgain name) : c.workerName = name := by
  obtain ⟨lead, text⟩ := rawName_toList raw
  have last : ¬ [':', 'w', ':'] <:+: ['w', ':'] ++ name.toList := by
    rw [marksAgain_iff] at plain
    simpa [List.infix_cons_iff] using plain
  have split := Text.splitLast_append lead (Text.splitLast_of_last last)
  rw [← text] at split
  have some' : name.toList ≠ [] := fun none => named (String.toList_eq_nil_iff.mp none)
  rw [workerName_of_split split some', String.ofList_toList]

/-- Of a name with a marker something with a colon is cut off. -/
theorem colons_workerName_lt (raw : c.rawName = connectionName encode keyPrefix queue name)
    (nameless : c.id = "") (marked : MarksAgain name) :
    c.workerName.toList.count ':' < name.toList.count ':' := by
  obtain ⟨lead, text⟩ := rawName_toList raw
  cases split : Text.splitLast [':', 'w', ':'] (':' :: name.toList) with
  | none => exact absurd (marksAgain_iff.mp marked) (Text.splitLast_eq_none_iff.mp split)
  | some halves =>
    obtain ⟨before, after⟩ := halves
    -- the marker itself has a colon more than the one before the name
    have colons := congrArg (List.count ':') (Text.eq_append_of_splitLast split)
    have whole := Text.splitLast_append (lead ++ [':', 'w']) split
    have same : lead ++ [':', 'w'] ++ ':' :: name.toList = c.rawName.toList := by
      rw [text, List.append_assoc]
      rfl
    rw [same] at whole
    have cut : after.count ':' < name.toList.count ':' := by
      rw [List.count_cons_self, List.count_append, List.count_append,
        show [':', 'w', ':'].count ':' = 2 from rfl] at colons
      omega
    by_cases none : after = []
    · rw [workerName_of_nothing (none ▸ whole) nameless]
      exact Nat.zero_lt_of_lt cut
    · rwa [workerName_of_split whole none, String.toList_ofList]

end WorkerClient

/-! ## Looking for somebody -/

namespace Monitor

open Run

variable {σ : Type} {m : Monitor σ} {s : Session σ}

/-- A look that shows somebody who is expected is the last one. -/
theorem lookForWorkers_of_found {expected running : List String} (looks : Nat) (budget : Backoff)
    (down : s.signal ≠ .raised) (came : (m.backend.workerIdentifiers s).outcome = .returned running)
    (found : hasExpectedWorker expected running = true) :
    (m.lookForWorkers expected (looks + 1) budget s).outcome = .returned budget.attempts ∧
      brokerCalls (m.lookForWorkers expected (looks + 1) budget s).events =
        brokerCalls (m.backend.workerIdentifiers s).events := by
  rw [lookForWorkers, throwIfAborted_bind, if_neg down, bind_returned came]
  simp only [if_pos found]
  obtain ⟨lines, lined, told⟩ := log_bind m.logger .info
    ("checking for workers, running workers = [" ++ Text.join ", " running ++ "] ...") []
    (fun _ => (pure budget.attempts : Run σ Nat)) (m.backend.workerIdentifiers s).session
  rw [Log.Logger.info, told, brokerCalls_append, brokerCalls_append, brokerCalls_of_lines lined]
  exact ⟨rfl, List.append_nil _⟩

/-- A wait ends at its first look if that shows somebody who is expected. -/
theorem waitForWorkers_of_found {view : JobView} {sleepSeconds : Binary64} {running : List String}
    (valid : Delay.validate sleepSeconds "sleepSeconds" = .ok ()) (down : s.signal ≠ .raised)
    (came : (m.backend.workerIdentifiers s).outcome = .returned running)
    (found : hasExpectedWorker view.expectedWorkers running = true) :
    (m.waitForWorkers view sleepSeconds s).outcome = .returned 0 ∧
      brokerCalls (m.waitForWorkers view sleepSeconds s).events =
        brokerCalls (m.backend.workerIdentifiers s).events := by
  let budget := Backoff.new (Binary64.ofNat maxWorkerChecks) (Delay.ofSeconds sleepSeconds)
  obtain ⟨lines, lined, told⟩ := log_bind m.logger .info
    ("Checking for the following workers: " ++ Text.join ", " view.expectedWorkers) []
    (fun _ => m.lookForWorkers view.expectedWorkers maxWorkerChecks budget) s
  rw [waitForWorkers, valid, require_ok_bind, Log.Logger.info, told, brokerCalls_append,
    brokerCalls_of_lines lined]
  exact m.lookForWorkers_of_found 9 budget down came found

end Monitor

/-! ## Being recognised -/

namespace QueueBackend

open Run

/-- A worker of that name is connected to a known queue, and the broker answers whoever asks for
the workers of the known queues. -/
structure Connects (b : QueueBackend β) (s : Session (Service β)) (encode : String → String)
    (name : String) : Prop where
  admitted : s.outside.pool.Admits s.now
  answered : b.broker.allPass s.outside.broker (s.outside.pool.handles.map .workers) = true
  listed : ∃ keyPrefix queue c, b.broker.Lists s.outside.broker s.outside.pool.handles queue c ∧
    c.rawName = connectionName encode keyPrefix queue name

/-- Somebody who is expected is among the workers, and a wait for them ends when each known queue
has been asked about once. -/
structure Recognises (b : QueueBackend β) (s : Session (Service β)) (expected : List String) :
    Prop where
  found : ∃ names, (b.backend.workerIdentifiers s).outcome = .returned names ∧
    hasExpectedWorker expected names = true
  waits : ∀ (m : Monitor (Service β)) (view : JobView) (sleepSeconds : Binary64),
    m.backend = b.backend → view.expectedWorkers = expected →
    Delay.validate sleepSeconds "sleepSeconds" = .ok () → s.signal ≠ .raised →
    (m.waitForWorkers view sleepSeconds s).outcome = .returned 0 ∧
      brokerCalls (m.waitForWorkers view sleepSeconds s).events =
        s.outside.pool.handles.map .workers

variable {b : QueueBackend β} {s : Session (Service β)} {encode : String → String}
  {name : String} {expected : List String}

theorem Connects.recognises (connects : b.Connects s encode name) (wanted : name ∈ expected)
    (named : name ≠ "") (plain : ¬ MarksAgain name) : b.Recognises s expected := by
  obtain ⟨keyPrefix, queue, c, listed, raw⟩ := connects.listed
  obtain ⟨⟨names, came, names_iff⟩, calls⟩ :=
    workerIdentifiers_of_answered connects.admitted connects.answered
  have among : c.identifier ∈ names := (names_iff _).mpr ⟨queue, c, listed, rfl⟩
  have within : name.toList <:+: c.identifier.toList := by
    rw [WorkerClient.identifier, WorkerClient.workerName_of_plain raw named plain,
      String.toList_append, String.toList_append, List.append_assoc]
    exact (List.prefix_append _ _).isInfix
  have found := hasExpectedWorker_iff.mpr ⟨c.identifier, among, name, wanted, within⟩
  refine ⟨⟨names, came, found⟩, fun m view sleepSeconds backed same valid down => ?_⟩
  subst same
  rw [← backed] at came calls
  rw [← calls]
  exact m.waitForWorkers_of_found valid down came found

/-- A broker with one queue, on which one worker of that name is connected from nowhere. -/
def lonely (encode : String → String) (name : String) : Answers :=
  ⟨fun _ => [], fun _ => [⟨connectionName encode "" "a" name, "", ""⟩], fun _ => 0⟩

/-- Nobody is recognised of whose name something has been cut off. -/
theorem exists_unrecognised (encode : String → String) (marked : MarksAgain name) :
    ∃ (b : QueueBackend Unit) (s : Session (Service Unit)), b.Connects s encode name ∧
      ¬ b.Recognises s [name] := by
  let c : WorkerClient := ⟨connectionName encode "" "a" name, "", ""⟩
  let b : QueueBackend Unit := ⟨(lonely encode name).broker, Log.Logger.silent, none⟩
  let s : Session (Service Unit) := Session.start 0
    { Service.start Link.ready () with pool := { Pool.new none none with handles := ["a"] } }
  have listings : b.broker.listings s.outside.broker s.outside.pool.handles = [("a", [c])] := rfl
  have lists (queue : String) (c' : WorkerClient) :
      b.broker.Lists s.outside.broker s.outside.pool.handles queue c' ↔ queue = "a" ∧ c' = c := by
    simp [Broker.Lists, listings]
  have admitted : s.outside.pool.Admits s.now := by decide
  have connects : b.Connects s encode name :=
    ⟨admitted, rfl, "", "a", c, (lists _ _).mpr ⟨rfl, rfl⟩, rfl⟩
  refine ⟨b, s, connects, fun recognises => ?_⟩
  obtain ⟨⟨names, came, names_iff⟩, _⟩ :=
    workerIdentifiers_of_answered connects.admitted connects.answered
  obtain ⟨names', came', found⟩ := recognises.found
  obtain rfl : names = names' := Outcome.returned.inj (came.symm.trans came')
  obtain ⟨name', same, identified⟩ := List.any_eq_true.mp found
  obtain rfl := List.mem_singleton.mp same
  obtain ⟨identifier, among, within⟩ := List.any_eq_true.mp identified
  obtain ⟨queue, c', listed, rfl⟩ := (names_iff identifier).mp among
  obtain ⟨-, rfl⟩ := (lists queue c').mp listed
  -- the host has no colon, so all colons of the name would have to be in what is left of it
  have colons := (Text.contains_iff.mp within).sublist.count_le ':'
  have fewer := WorkerClient.colons_workerName_lt (c := c) rfl rfl marked
  have host : c.host = "unknown" := rfl
  rw [WorkerClient.identifier, host, String.toList_append, String.toList_append,
    List.count_append, List.count_append] at colons
  have none : "@".toList.count ':' + "unknown".toList.count ':' = 0 := by decide
  omega

/-- Whoever is expected and connected is recognised, whatever the broker, the queue and the address
and whoever else is expected or connected, exactly if no marker begins in the name. -/
theorem connected_worker_recognised_iff (encode : String → String) (name : String)
    (named : name ≠ "") :
    (∀ (β : Type) (b : QueueBackend β) (s : Session (Service β)) (expected : List String),
      b.Connects s encode name → name ∈ expected → b.Recognises s expected) ↔
      ¬ MarksAgain name := by
  constructor
  · intro always marked
    obtain ⟨b, s, connects, unrecognised⟩ := exists_unrecognised encode marked
    exact unrecognised (always Unit b s [name] connects List.mem_cons_self)
  · intro plain β b s expected connects wanted
    exact connects.recognises wanted named plain

/-- A backend that knows one queue, for which the broker lists one worker. -/
def attended (c : WorkerClient) : QueueBackend Play × Session (Service Play) :=
  (⟨Play.broker, Log.Logger.silent, none⟩,
    Session.start 0 { Service.start Link.ready { queues := [("a", { workers := [.ok [c]] })] } with
      pool := { Pool.new none none with handles := ["a"] } })

/-- The encoding stands for that of the one queue there is. -/
theorem connected_worker_recognised_of_plain_name :
    let (b, s) := attended ⟨"bull:YQ==:w:step1", "4", "10.0.0.1:6379"⟩
    b.Recognises s ["other", "step1"] := by
  have always := (connected_worker_recognised_iff (fun _ => "YQ==") "step1" (by decide)).mpr
    (by decide)
  refine always Play _ _ _ ⟨by decide, by decide, "bull", "a",
    ⟨"bull:YQ==:w:step1", "4", "10.0.0.1:6379"⟩, ?_, rfl⟩ (by decide)
  exact ⟨_, List.mem_cons_self, List.mem_cons_self⟩

/-- The worker is connected and expected, and all that is left of its name is what stands behind
the second marker. -/
theorem connected_worker_unrecognised :
    let c : WorkerClient := ⟨"bull:YQ==:w:batch:w:2", "7", "10.0.0.1:6379"⟩
    let (b, s) := attended c
    c.rawName = connectionName (fun _ => "YQ==") "bull" "a" "batch:w:2" ∧
      Play.broker.listings s.outside.broker s.outside.pool.handles = [("a", [c])] ∧
      (b.backend.workerIdentifiers s).outcome.returned? = some ["2@10.0.0.1"] ∧
      hasExpectedWorker ["batch:w:2"] ["2@10.0.0.1"] = false := by
  decide +kernel

end QueueBackend

end JobWatch
