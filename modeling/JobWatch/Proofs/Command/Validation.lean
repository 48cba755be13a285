import JobWatch.Proofs.Command.Layout
import JobWatch.Proofs.Command.Release
import JobWatch.Proofs.Delay
import JobWatch.Proofs.Job.Acceptance
import JobWatch.Proofs.Log.Logger
import JobWatch.Proofs.Text.Blank
import JobWatch.Proofs.Watcher.Blame
import JobWatch.Proofs.Workers.Listing

/-!
# What the command line checks for everybody

The parts of the program check again what the command line has checked already. The main statement
says that the two do not disagree: what is accepted on the command line is turned down by none of
the later checks, and a sleep or a pattern is refused on the command line only if a later check
would turn it down. That a program fails for other reasons is left open.
-/

namespace JobWatch

namespace Command

open Run

/-! ## Lists of items -/

theorem mem_splitList {value item : String} (listed : item ∈ splitList value) :
    item ≠ "" ∧ Text.trim item.toList = item.toList ∧ ',' ∉ item.toList := by
  simp only [splitList, List.mem_filterMap, List.mem_map] at listed
  obtain ⟨_, ⟨piece, split, rfl⟩, kept⟩ := listed
  by_cases blank : (Text.trim piece).isEmpty = true
  · rw [if_pos blank] at kept
    cases kept
  · rw [if_neg blank] at kept
    obtain rfl := Option.some.inj kept
    rw [String.toList_ofList]
    refine ⟨fun none => blank ?_, Text.trim_trim piece, fun comma => ?_⟩
    · rw [List.isEmpty_iff]
      exact String.ofList_eq_empty_iff.mp none
    · exact Text.not_mem_of_mem_split split ((Text.trim_infix piece).subset comma)

namespace Scan

theorem steps_ne_nil (s : Scan) : s.steps ≠ [] := by
  rw [steps]
  by_cases nothing : (splitList ((s.filled? "steps").getD "all")).isEmpty = true
  · simp only [if_pos nothing]
    exact List.cons_ne_nil _ _
  · simp only [if_neg nothing]
    exact fun empty => nothing (List.isEmpty_iff.mpr empty)

theorem mem_steps {s : Scan} {item : String} (listed : item ∈ s.steps) :
    item ≠ "" ∧ Text.trim item.toList = item.toList ∧ ',' ∉ item.toList := by
  rw [steps] at listed
  by_cases nothing : (splitList ((s.filled? "steps").getD "all")).isEmpty = true
  · simp only [if_pos nothing, List.mem_singleton] at listed
    subst listed
    decide
  · simp only [if_neg nothing] at listed
    exact mem_splitList listed

end Scan

/-! ## Arguments that have been accepted -/

namespace Args

/-- The pattern that a listing of workers is asked for. -/
def patternFilter (a : Args) : PatternFilter :=
  match a.workerPattern with
  | some source => .text source
  | none => .absent

/-- The arguments pass every check of those who are given them. -/
structure Sound (a : Args) : Prop where
  sleep : ∀ label, Delay.validate a.sleepSeconds label = .ok ()
  level : ∀ enabled tag, ∃ logger,
    Log.Logger.create ⟨enabled, some a.logLevel.name, tag⟩ = .ok logger ∧
      logger.threshold = .level a.logLevel
  pattern : ∀ active names queues, ∃ found,
    filterWorkers active ⟨names, queues, a.patternFilter⟩ = .ok found
  address : a.redisUrl ≠ ""
  selects : a.steps ≠ []
  items : ∀ item ∈ a.steps,
    item ≠ "" ∧ Text.trim item.toList = item.toList ∧ ',' ∉ item.toList

end Args

theorem Scan.Passes.sound {s : Scan} {verb : Verb} {path : String} {level : Log.Level}
    (passes : s.Passes verb path level) (url : Option String) :
    (s.args url verb path level).Sound where
  sleep := Delay.validate_eq_ok passes.sleepable
  level enabled tag := Log.Logger.create_of_level enabled tag level
  pattern active names queues := by
    refine (exists_listing active (q := ⟨names, queues, _⟩) ?_).imp fun _ found => found.1
    change (match s.get? "workers" with
      | some source => PatternFilter.text source
      | none => .absent).IsValid
    cases given : s.get? "workers" with
    | none => exact .absent
    | some source =>
      cases read : Pattern.read {} source with
      | ok p => exact .text read
      | error fault => exact absurd read (passes.readable source fault given)
  address := by
    change ((s.filled? "redis").or (url.filter (· ≠ ""))).getD defaultRedisUrl ≠ ""
    cases given : (s.filled? "redis").or (url.filter (· ≠ "")) with
    | none => decide
    | some address =>
      rcases Option.or_eq_some_iff.mp given with given | ⟨-, given⟩
      · exact (Scan.filter_filled_eq_some.mp given).2
      · exact (Scan.filter_filled_eq_some.mp given).2
  selects := s.steps_ne_nil
  items _ listed := Scan.mem_steps listed

theorem sound_of_parse {url : Option String} {argv : List String} {a : Args}
    (accepted : parse url argv = .ok a) : a.Sound := by
  obtain ⟨s, _, interpreted⟩ := exists_scan accepted
  obtain ⟨passes, same⟩ := Scan.passes_of_interpret interpreted
  rw [same]
  exact passes.sound url

/-! ## Programs with such arguments -/

section Programs

variable {β : Type} {s : Setting β} {a : Args}

theorem throws_loadSpec {σ : Type} {b : Broker β} (path : String) :
    Throws b.Blamed (loadSpec path : Run σ Job.Spec) := by
  refine throws_session.bind fun here => ?_
  cases here.files.read path with
  | error f => exact throws_fail (Broker.blamed_of_other f.isOf_configuration)
  | ok source =>
    rcases Job.Spec.parse_cases source with ⟨spec, made⟩ | ⟨reason, refused⟩
    · simp only [made]
      exact throws_pure spec
    · simp only [refused]
      exact throws_fail (Broker.blamed_of_other rfl)

theorem blamed_of_queues {b : Broker β} {spec : Job.Spec} {selection : List String} {f : Failure}
    (refused : spec.queues selection = .error f) : b.Blamed (.failure f) := by
  obtain ⟨reason, rfl⟩ := Job.Spec.exists_reason_of_queues refused
  exact Broker.blamed_of_other rfl

theorem throws_recordIfNamed {b : Broker β} (file : Option String) (m : StatusMap) :
    Throws b.Blamed (recordIfNamed (β := β) file m) := by
  rw [recordIfNamed]
  cases file.filter (· ≠ "") with
  | none => exact throws_pure ()
  | some file =>
    refine throws_session.bind fun here => ?_
    cases Report.recordIn file here.now m here.files with
    | ok files => exact throws_modify _
    | error f => exact throws_fail (Broker.blamed_of_other f.isOf_configuration)

/-- The service is set up with a valid configuration. -/
theorem Args.Sound.config (sound : a.Sound) (queues : List String) : (a.config queues).Valid where
  target := by
    have other : Connection.Config.address a.redisUrl ≠ .address "" :=
      fun same => sound.address (Connection.Config.address.inj same)
    rw [Watcher.Config.target?, Args.config, Option.filter_some, if_pos (decide_eq_true other)]
    nofun
  logging := (sound.level true none).imp fun _ made => made.1
  sleep := sound.sleep _
  scope := ⟨.all, rfl⟩

theorem throws_perform {w : Watcher β} {b : QueueBackend β} (sound : a.Sound)
    (works : w.WorksWith b.backend)
    (valid : Delay.validate w.sleepSeconds "sleepSeconds" = .ok ()) (spec : Job.Spec) :
    Throws b.broker.Blamed (perform s a spec w) := by
  have printed (line : String) : Throws b.broker.Blamed (printLine line : Run (Service β) Unit) :=
    throws_emit _
  have selects (f : Failure) (refused : spec.queues a.steps = .error f) :
      b.broker.Blamed (.failure f) := blamed_of_queues refused
  rw [perform]
  cases a.verb with
  | workers =>
    refine (Watcher.throws_queryWorkers works fun active => sound.pattern active _ _).bind
      fun workers => ?_
    by_cases deserted : workers.isEmpty = true
    · simp only [if_pos deserted]
      exact printed _
    · simp only [if_neg deserted]
      exact printed _
  | status =>
    have asked : Throws b.broker.Blamed (w.queryStatus (.spec spec) a.steps) :=
      Watcher.throws_queryStatus works selects
    exact asked.bind fun statuses => (printed _).bind fun _ => throws_recordIfNamed _ statuses
  | monitor =>
    refine (throws_require selects).bind fun queues =>
      (Watcher.throws_monitorUntilIdle (o := ⟨none, some queues⟩) works (fun f refused => ?_)
        valid (fun statuses => throws_recordIfNamed _ statuses)
        (fun statuses => recordIfNamed_concludes _ statuses) _).bind fun summary => printed _
    cases spec.view_eq.symm.trans refused

/-- A program with sound arguments does not complain about the configuration of its own accord. -/
theorem throws_run (sound : a.Sound) : Throws s.broker.Blamed (run s a) := by
  refine (throws_loadSpec _).bind fun spec =>
    (throws_require fun _ refused => blamed_of_queues refused).bind fun queues =>
      (Watcher.throws_create (sound.config queues)).bind_of_returned fun here w made => ?_
  obtain ⟨b, _, _, asks, _, assembled⟩ := Watcher.assembled_of_create made
  obtain ⟨works, _⟩ := Watcher.worksWith_of_assemble assembled
  have fine := Delay.defect?_of_validate (Watcher.eq_of_assemble assembled).1
  rw [← asks]
  exact (throws_modify _).bind fun _ =>
    (throws_perform sound works (Delay.validate_eq_ok fine _) spec).ensuring
      ((throws_modify _).bind fun _ => Watcher.throws_shutdown works)

end Programs

/-! ## Arguments that have been refused -/

theorem Scan.Passes.accepted {url : Option String} {gs : List Group} {verb : Verb} {path : String}
    {level : Log.Level} (passes : (content gs).Passes verb path level) (fault : Fault) :
    parse url (line gs) ≠ .error fault := by
  rw [parse_line, Scan.interpret_of_passes passes]
  nofun

section Refused

variable {url : Option String} {before instead after : List Group} {g : Group} {value : String}
  {a : Args} {fault : Fault}

/-- Where another sleep or none would do, only a sleep that is turned down by others is refused. -/
theorem defect_of_refused_sleep (given : g.given? "sleep" = some value) (filled : value ≠ "")
    (named : AllNamed "sleep" instead)
    (accepted : parse url (line (before ++ instead ++ after)) = .ok a)
    (refused : parse url (line (before ++ [g] ++ after)) = .error fault) :
    Delay.defect? (Numeral.value value) ≠ none := by
  intro fine
  rw [parse_line] at accepted
  obtain ⟨passes, _⟩ := Scan.passes_of_interpret accepted
  have but := named.agreesBut (allNamed_of_given? given) before after
  have sleepable : Delay.defect?
      (Numeral.value (content (before ++ [g] ++ after)).sleepText) = none := by
    -- if a later sleep counts, it has been accepted along with the others
    rcases counts_or_not given before after with counts | same
    · rw [Scan.sleepText, Scan.filled?, counts, Scan.filter_filled_eq_some.mpr ⟨rfl, filled⟩]
      exact fine
    · rw [Scan.sleepText, Scan.filled?, ← same instead]
      exact passes.sleepable
  refine (but.passes (by decide) passes sleepable ?_ ?_).accepted fault refused
  · rw [but.levelName (by decide)]
    exact passes.levelled
  · rw [but.values "workers" (by decide)]
    exact passes.readable

/-- The same of patterns. -/
theorem unreadable_of_refused_pattern (given : g.given? "workers" = some value)
    (named : AllNamed "workers" instead)
    (accepted : parse url (line (before ++ instead ++ after)) = .ok a)
    (refused : parse url (line (before ++ [g] ++ after)) = .error fault) :
    ∃ fault, Pattern.read {} value = .error fault := by
  rw [parse_line] at accepted
  obtain ⟨passes, _⟩ := Scan.passes_of_interpret accepted
  have but := named.agreesBut (allNamed_of_given? given) before after
  cases read : Pattern.read {} value with
  | error fault => exact ⟨fault, rfl⟩
  | ok p =>
    have readable : ∀ source fault,
        (content (before ++ [g] ++ after)).get? "workers" = some source →
          Pattern.read {} source ≠ .error fault := by
      intro source fault asked
      rcases counts_or_not given before after with counts | same
      · obtain rfl := Option.some.inj (counts.symm.trans asked)
        rw [read]
        nofun
      · exact passes.readable source fault ((same instead).trans asked)
    refine absurd refused ((but.passes (by decide) passes ?_ ?_ readable).accepted fault)
    · rw [but.sleepText (by decide)]
      exact passes.sleepable
    · rw [but.levelName (by decide)]
      exact passes.levelled

end Refused

/-- Arguments that are accepted pass all later checks, so a program that gets as far as throwing a
failure of the configuration has had it thrown at it by the broker. A sleep or a pattern in whose
place something else is accepted is refused only if a later check turns it down. -/
theorem validation_covers_later_checks (url : Option String) :
    (∀ argv a, parse url argv = .ok a → a.Sound ∧
      ∀ (β : Type) (s : Setting β) (start : Session (Service β)) (t : Thrown),
        (run s a start).outcome = .threw t → t.isOf .configuration = true →
          ∃ w call, s.broker.fault? w call = some t) ∧
    (∀ before instead after g value a fault, g.given? "sleep" = some value → value ≠ "" →
      AllNamed "sleep" instead → parse url (line (before ++ instead ++ after)) = .ok a →
      parse url (line (before ++ [g] ++ after)) = .error fault →
        ∀ label, ∃ f, Delay.validate (Numeral.value value) label = .error f) ∧
    ∀ before instead after g value a fault, g.given? "workers" = some value →
      AllNamed "workers" instead → parse url (line (before ++ instead ++ after)) = .ok a →
      parse url (line (before ++ [g] ++ after)) = .error fault →
        ∀ active names queues, ∃ f,
          filterWorkers active ⟨names, queues, .text value⟩ = .error f := by
  refine ⟨fun argv a accepted => ?_, ?_, ?_⟩
  · have sound := sound_of_parse accepted
    exact ⟨sound, fun β s start t threw => throws_run sound start t threw⟩
  · intro before instead after g value a fault given filled named accepted refused label
    have bad := defect_of_refused_sleep given filled named accepted refused
    exact Delay.validate_of_defect bad label
  · intro before instead after g value a fault given named accepted refused active names queues
    obtain ⟨fault, read⟩ := unreadable_of_refused_pattern given named accepted refused
    exact ⟨_, filterWorkers_of_fault active rfl read⟩

/-- The broker itself throws a failure of the configuration. A negative sleep and half a pattern are
refused by everybody. -/
theorem validation_covers_later_checks_of_nightly :
    let boom : Thrown := .failure (.configuration "boom")
    let play : Play := { queues := [("a", { opening := [.error boom] })] }
    let s : Setting Play := ⟨Play.broker, false, none, 10⟩
    let start := { Session.start 0 (Service.start Link.waiting play) with files := nightly }
    statusOfNightly.Sound ∧
      (∃ t, (run s statusOfNightly start).outcome = .threw t ∧ t.isOf .configuration = true ∧
        ∃ w call, s.broker.fault? w call = some t) ∧
      (∃ f, Delay.validate (Numeral.value "-1") "sleepSeconds" = .error f) ∧
      ∃ f, filterWorkers none ⟨[], [], .text "("⟩ = .error f := by
  intro boom play s start
  obtain ⟨stands, sleeps, patterns⟩ := validation_covers_later_checks none
  let front : List Group := [.word "status" (by decide), .word "spec.yaml" (by decide)]
  have accepted : parse none (line (front ++ [] ++ [])) = .ok statusOfNightly := by decide +kernel
  obtain ⟨sound, blamed⟩ := stands _ _ accepted
  refine ⟨sound, ?_, ?_, ?_⟩
  · have threw : (run s statusOfNightly start).outcome.thrown?.any
        (fun t => t.isOf .configuration) = true := by decide +kernel
    cases came : (run s statusOfNightly start).outcome with
    | threw t =>
      rw [came] at threw
      exact ⟨t, rfl, threw, blamed Play s start t came threw⟩
    | returned u =>
      rw [came] at threw
      cases threw
    | unfinished =>
      rw [came] at threw
      cases threw
  · have refused : parse none (line (front ++ [.joined "sleep" "-1" (by decide)] ++ [])) =
        .error (.sleep .notNonNegative "-1") := by decide +kernel
    exact sleeps front [] [] _ _ _ _ rfl (by decide) nofun accepted refused "sleepSeconds"
  · have refused : parse none (line (front ++ [.joined "workers" "(" (by decide)] ++ [])) =
        .error (.workers "(") := by decide +kernel
    exact patterns front [] [] _ _ _ _ rfl nofun accepted refused none [] []

end Command

end JobWatch
