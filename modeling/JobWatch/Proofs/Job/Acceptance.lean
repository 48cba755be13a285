import JobWatch.Proofs.Job.Selection
import Mathlib.Data.List.Forall2

/-!
# Which values are job specs

What a well-formed value is, is said here without the check: which fields it has, what they hold,
and that its step names differ and cover those that its workers name. The main statement says that
exactly the well-formed values are accepted, that all others are refused as invalid, and what an
accepted spec tells a check. It is not said how YAML becomes a value, nor which fault of a value
is reported.
-/

namespace JobWatch.Job

variable {α β : Type}

/-! ## What a value describes -/

/-- The field holds this text, and it is not empty. -/
def Holds (fs : List (String × Yaml.Value)) (field text : String) : Prop :=
  Yaml.Value.lookup field fs = some (.text text) ∧ text ≠ ""

/-- The field holds a list that describes these items one by one, and there is at least one. -/
def Lists (describes : Yaml.Value → α → Prop) (fs : List (String × Yaml.Value)) (field : String)
    (items : List α) : Prop :=
  ∃ vs, Yaml.Value.lookup field fs = some (.list vs) ∧ List.Forall₂ describes vs items ∧ items ≠ []

inductive DescribesStep : Yaml.Value → Step → Prop
  | mk {fs : List (String × Yaml.Value)} {name queue : String} (named : Holds fs "name" name)
      (fed : Holds fs "queue" queue) : DescribesStep (.record fs) ⟨name, queue⟩

/-- Where nothing is said, every step is meant. -/
inductive DescribesCoverage : Option Yaml.Value → Coverage → Prop
  | absent : DescribesCoverage none .all
  | all : DescribesCoverage (some (.text "all")) .all
  | only {names : List String} (some' : names ≠ []) (filled : ∀ s ∈ names, s ≠ "") :
      DescribesCoverage (some (.list (names.map .text))) (.only names)

inductive DescribesWorker : Yaml.Value → Worker → Prop
  | mk {fs : List (String × Yaml.Value)} {name : String} {steps : Coverage}
      (named : Holds fs "name" name)
      (serves : DescribesCoverage (Yaml.Value.lookup "steps" fs) steps) :
      DescribesWorker (.record fs) ⟨name, steps⟩

inductive Describes : Yaml.Value → Document → Prop
  | mk {fs : List (String × Yaml.Value)} {name : String} {steps : List Step}
      {workers : List Worker} (named : Holds fs "name" name)
      (listed : Lists DescribesStep fs "steps" steps)
      (serve : Lists DescribesWorker fs "workers" workers) :
      Describes (.record fs) ⟨name, steps, workers⟩

namespace Document

/-- Every step that a worker names is a step of the document. -/
def IsCovered (d : Document) : Prop :=
  ∀ w ∈ d.workers, ∀ names, w.steps = .only names → ∀ s ∈ names, s ∈ d.stepNames

/-- No two steps have the same name, and no worker names a step that is not there. -/
structure IsConsistent (d : Document) : Prop where
  unique : d.stepNames.Nodup
  covered : d.IsCovered

end Document

/-- The value describes a document that is consistent. -/
def WellFormed (v : Yaml.Value) : Prop := ∃ d, Describes v d ∧ d.IsConsistent

/-! ## The shape of a document -/

theorem bind_eq_ok {x : Checked α} {f : α → Checked β} {b : β} :
    (x >>= f) = .ok b ↔ ∃ a, x = .ok a ∧ f a = .ok b := by
  cases x with
  | ok a =>
    change f a = .ok b ↔ _
    simp
  | error i =>
    change (.error i : Checked β) = .ok b ↔ _
    simp

theorem inField_eq_ok {field : String} {x : Checked α} {a : α} :
    inField field x = .ok a ↔ x = .ok a := by
  cases x <;> simp [inField]

theorem filledText_eq_ok {v : Option Yaml.Value} {s : String} :
    filledText v = .ok s ↔ v = some (.text s) ∧ s ≠ "" := by
  unfold filledText
  split
  · simp [fault]
  · rename_i t
    by_cases empty : t = ""
    · simp only [if_pos empty, fault, reduceCtorEq, Option.some.injEq, Yaml.Value.text.injEq,
        false_iff, not_and, not_not]
      exact fun same => same ▸ empty
    · simp only [if_neg empty, Except.ok.injEq, Option.some.injEq, Yaml.Value.text.injEq]
      exact ⟨fun same => ⟨same, same ▸ empty⟩, fun h => h.1⟩
  · rename_i w other
    simp only [fault, reduceCtorEq, Option.some.injEq, false_iff, not_and]
    exact fun same => absurd same (other s)

theorem field_eq_ok {fs : List (String × Yaml.Value)} {field text : String} :
    filledText (Yaml.Value.lookup field fs) = .ok text ↔ Holds fs field text :=
  filledText_eq_ok

theorem eachFrom_eq_ok {check : Yaml.Value → Checked α} {n : Nat} {vs : List Yaml.Value} {xs : List α} :
    eachFrom check n vs = .ok xs ↔ List.Forall₂ (fun v x => check v = .ok x) vs xs := by
  induction vs generalizing n xs with
  | nil =>
    rw [eachFrom, List.forall₂_nil_left_iff]
    exact ⟨fun h => (Except.ok.inj h).symm, fun h => congrArg Except.ok h.symm⟩
  | cons v rest ih =>
    rw [eachFrom, List.forall₂_cons_left_iff]
    simp only [bind_eq_ok, inField_eq_ok, ih]
    constructor
    · rintro ⟨x, checked, xs', others, same⟩
      exact ⟨x, xs', checked, others, (Except.ok.inj same).symm⟩
    · rintro ⟨x, xs', checked, others, rfl⟩
      exact ⟨x, checked, xs', others, rfl⟩

theorem filledList_eq_ok {check : Yaml.Value → Checked α} {v : Option Yaml.Value} {xs : List α} :
    filledList check v = .ok xs ↔
      ∃ vs, v = some (.list vs) ∧ List.Forall₂ (fun v x => check v = .ok x) vs xs ∧ xs ≠ [] := by
  unfold filledList
  split
  · simp [fault]
  · simp only [fault, reduceCtorEq, Option.some.injEq, Yaml.Value.list.injEq, false_iff]
    rintro ⟨vs, rfl, described, some'⟩
    exact some' (List.forall₂_nil_left_iff.mp described)
  · rename_i vs some'
    rw [eachFrom_eq_ok]
    constructor
    · intro described
      refine ⟨vs, rfl, described, ?_⟩
      rintro rfl
      exact some' (List.forall₂_nil_right_iff.mp described)
    · rintro ⟨vs', same, described, -⟩
      cases same
      exact described
  · rename_i w _ other
    simp only [fault, reduceCtorEq, Option.some.injEq, false_iff]
    rintro ⟨vs, rfl, -⟩
    exact other vs rfl

theorem filledList_field_eq_ok {check : Yaml.Value → Checked α} {describes : Yaml.Value → α → Prop}
    (h : ∀ v x, check v = .ok x ↔ describes v x) {fs : List (String × Yaml.Value)} {field : String}
    {xs : List α} :
    filledList check (Yaml.Value.lookup field fs) = .ok xs ↔ Lists describes fs field xs := by
  simp only [filledList_eq_ok, h, Lists]

/-- Only a mapping has fields, or bytes, which have none. -/
theorem fields_eq_ok {v : Yaml.Value} {fs : List (String × Yaml.Value)} :
    fields v = .ok fs ↔ v = .record fs ∨ v = .bytes ∧ fs = [] := by
  cases v <;> simp [fields, fault, eq_comm]

theorem not_holds_nil {field text : String} : ¬ Holds [] field text := by
  simp [Holds, Yaml.Value.lookup]

theorem step_eq_ok {v : Yaml.Value} {s : Step} : step v = .ok s ↔ DescribesStep v s := by
  simp only [step, bind_eq_ok, fields_eq_ok, inField_eq_ok, field_eq_ok]
  constructor
  · rintro ⟨fs, rfl | ⟨-, rfl⟩, name, named, queue, fed, same⟩
    · cases same
      exact .mk named fed
    · exact absurd named not_holds_nil
  · rintro ⟨named, fed⟩
    exact ⟨_, Or.inl rfl, _, named, _, fed, rfl⟩

theorem eachFrom_texts_eq_ok {vs : List Yaml.Value} {names : List String} :
    eachFrom (fun v => filledText (some v)) 0 vs = .ok names ↔
      vs = names.map .text ∧ ∀ s ∈ names, s ≠ "" := by
  rw [eachFrom_eq_ok]
  simp only [filledText_eq_ok, Option.some.injEq]
  induction vs generalizing names with
  | nil => cases names <;> simp
  | cons v rest ih =>
    cases names with
    | nil => simp
    | cons s names =>
      rw [List.forall₂_cons, ih]
      simp only [List.map_cons, List.cons.injEq, List.mem_cons, forall_eq_or_imp]
      exact and_and_and_comm

theorem coverage_eq_ok {v : Option Yaml.Value} {c : Coverage} :
    coverage v = .ok c ↔ DescribesCoverage v c := by
  constructor
  · intro checked
    unfold coverage at checked
    split at checked
    · cases checked
      exact .absent
    · cases checked
      exact .all
    · cases checked
    · rename_i vs some'
      by_cases texts : vs.all isText = true
      · rw [if_pos texts] at checked
        cases read : eachFrom (fun v => filledText (some v)) 0 vs with
        | error i =>
          rw [read] at checked
          cases checked
        | ok names =>
          rw [read] at checked
          cases checked
          obtain ⟨rfl, filled⟩ := eachFrom_texts_eq_ok.mp read
          exact .only (fun none => some' (congrArg (List.map Yaml.Value.text) none)) filled
      · rw [if_neg texts] at checked
        cases checked
    · cases checked
  · intro described
    cases described with
    | absent => rfl
    | all => rfl
    | @only names some' filled =>
      have texts : (names.map Yaml.Value.text).all isText = true := by simp [isText]
      have read := eachFrom_texts_eq_ok.mpr ⟨rfl, filled⟩
      cases names with
      | nil => exact absurd rfl some'
      | cons s names =>
        rw [List.map_cons] at texts read ⊢
        rw [coverage, if_pos texts, read]
        · rfl
        · exact nofun

theorem worker_eq_ok {v : Yaml.Value} {w : Worker} : worker v = .ok w ↔ DescribesWorker v w := by
  simp only [worker, bind_eq_ok, fields_eq_ok, inField_eq_ok, field_eq_ok, coverage_eq_ok]
  constructor
  · rintro ⟨fs, rfl | ⟨-, rfl⟩, name, named, steps, serves, same⟩
    · cases same
      exact .mk named serves
    · exact absurd named not_holds_nil
  · rintro ⟨named, serves⟩
    exact ⟨_, Or.inl rfl, _, named, _, serves, rfl⟩

/-- The check finds the document that a value describes, and finds none where there is none. -/
theorem check_eq_ok {v : Yaml.Value} {d : Document} : Document.check v = .ok d ↔ Describes v d := by
  simp only [Document.check, bind_eq_ok, fields_eq_ok, inField_eq_ok, field_eq_ok,
    filledList_field_eq_ok fun _ _ => step_eq_ok, filledList_field_eq_ok fun _ _ => worker_eq_ok]
  constructor
  · rintro ⟨fs, rfl | ⟨-, rfl⟩, name, named, steps, listed, workers, serve, same⟩
    · cases same
      exact .mk named listed serve
    · exact absurd named not_holds_nil
  · rintro ⟨named, listed, serve⟩
    exact ⟨_, Or.inl rfl, _, named, _, listed, _, serve, rfl⟩

/-! ## Consistency -/

/-- No worker lists a step without a name. -/
def Document.NamesSteps (d : Document) : Prop :=
  ∀ w ∈ d.workers, ∀ names, w.steps = .only names → ∀ s ∈ names, s ≠ ""

theorem DescribesCoverage.filled {v : Option Yaml.Value} {names : List String}
    (h : DescribesCoverage v (.only names)) : ∀ s ∈ names, s ≠ "" := by
  cases h with
  | only _ filled => exact filled

theorem Describes.namesSteps {v : Yaml.Value} {d : Document} (h : Describes v d) :
    d.NamesSteps := by
  obtain ⟨-, -, vs, -, described, -⟩ := h
  intro w listed names only s named
  induction described with
  | nil => cases listed
  | cons first _ ih =>
    rcases List.mem_cons.mp listed with rfl | later
    · obtain ⟨-, serves⟩ := first
      cases only
      exact serves.filled s named
    · exact ih later

theorem Describes.nonempty {v : Yaml.Value} {d : Document} (h : Describes v d) :
    d.steps ≠ [] ∧ d.workers ≠ [] := by
  obtain ⟨-, ⟨_, -, -, steps⟩, ⟨_, -, -, workers⟩⟩ := h
  exact ⟨steps, workers⟩

/-- A list that names no nameless step is passed exactly if all its steps are known. -/
theorem danglingStep?_eq_none {known names : List String} (filled : ∀ s ∈ names, s ≠ "") :
    danglingStep? known (.only names) = none ↔ ∀ s ∈ names, s ∈ known := by
  have all : (∀ s ∈ names, s ∈ known) ↔ names.find? (fun s => !(known.contains s)) = none := by
    simp
  rw [danglingStep?, all]
  cases found : names.find? fun s => !(known.contains s) with
  | none => simp
  | some s => simp [filled s (List.mem_of_find?_eq_some found)]

theorem conflict?_eq_none {d : Document} (named : d.NamesSteps) :
    d.conflict? = none ↔ d.IsConsistent := by
  have covered : (∀ w ∈ d.workers, danglingStep? d.stepNames w.steps = none) ↔ d.IsCovered := by
    refine forall₂_congr fun w listed => ?_
    cases steps : w.steps with
    | all => simp [danglingStep?]
    | only names =>
      rw [danglingStep?_eq_none (named w listed names steps)]
      simp
  rw [conflict?_eq_none_iff, covered]
  exact ⟨fun h => ⟨h.1, h.2⟩, fun h => ⟨h.unique, h.covered⟩⟩

/-! ## Acceptance -/

namespace Spec

theorem ofDocument_eq_ok {d : Document} {s : Spec} : ofDocument d = .ok s ↔ s.document = d := by
  unfold ofDocument
  split
  · rename_i sound
    constructor
    · intro same
      cases same
      rfl
    · rintro rfl
      rfl
  · rename_i c conflict
    constructor
    · exact nofun
    · rintro rfl
      exact absurd (s.sound.symm.trans conflict) nofun

/-- A spec comes of a value exactly if its document is what the value describes. -/
theorem ofValue_eq_ok {v : Yaml.Value} {s : Spec} :
    ofValue v = .ok s ↔ Describes v s.document := by
  rw [← check_eq_ok, ofValue]
  cases Document.check v with
  | ok d => exact ofDocument_eq_ok.trans (eq_comm.trans (Except.ok.injEq d s.document).symm.to_iff)
  | error i => exact ⟨nofun, nofun⟩

/-- There is one kind of refusal. -/
def Refuses (outcome : Except Failure Spec) : Prop := ∃ reason, outcome = invalid reason

theorem ofDocument_cases (d : Document) : (∃ s, ofDocument d = .ok s) ∨ Refuses (ofDocument d) := by
  unfold ofDocument
  split
  · exact Or.inl ⟨_, rfl⟩
  · exact Or.inr ⟨_, rfl⟩

theorem ofValue_cases (v : Yaml.Value) : (∃ s, ofValue v = .ok s) ∨ Refuses (ofValue v) := by
  rw [ofValue]
  cases Document.check v with
  | ok d => exact ofDocument_cases d
  | error i => exact Or.inr ⟨_, rfl⟩

theorem parse_cases (source : String) :
    (∃ s, parse source = .ok s) ∨ Refuses (parse source) := by
  rw [parse]
  cases Yaml.parse? source with
  | none => exact Or.inr ⟨_, rfl⟩
  | some v => exact ofValue_cases v

theorem exists_ofValue_iff {v : Yaml.Value} : (∃ s, ofValue v = .ok s) ↔ WellFormed v := by
  simp only [ofValue_eq_ok]
  constructor
  · rintro ⟨s, described⟩
    exact ⟨s.document, described, (conflict?_eq_none described.namesSteps).mp s.sound⟩
  · rintro ⟨d, described, consistent⟩
    exact ⟨⟨d, (conflict?_eq_none described.namesSteps).mpr consistent⟩, described⟩

end Spec

/-- What a check is told of a document: the queue of every step, each once, and all workers in
their order. -/
structure Tells (d : Document) (view : JobView) : Prop where
  some_queue : view.relevantQueues ≠ []
  nodup : view.relevantQueues.Nodup
  mem_iff : ∀ queue, queue ∈ view.relevantQueues ↔ ∃ step ∈ d.steps, step.queue = queue
  workers : view.expectedWorkers = d.workers.map (·.name)
  some_worker : view.expectedWorkers ≠ []

theorem Spec.view_tells {v : Yaml.Value} {s : Spec} (described : Describes v s.document) :
    ∃ view, s.view = .ok view ∧ Tells s.document view := by
  obtain ⟨steps, workers⟩ := described.nonempty
  have listed (queue : String) : queue ∈ distinct (s.document.steps.map (·.queue)) ↔
      ∃ step ∈ s.document.steps, step.queue = queue := by
    rw [mem_distinct, List.mem_map]
  refine ⟨_, s.view_eq, ?_, nodup_distinct _, listed, rfl, ?_⟩
  · obtain ⟨first, rest, same⟩ := List.exists_cons_of_ne_nil steps
    have first_listed : first ∈ s.document.steps := same ▸ List.mem_cons_self
    exact List.ne_nil_of_mem ((listed _).mpr ⟨first, first_listed, rfl⟩)
  · exact fun none => workers (List.map_eq_nil_iff.mp none)

/-- What becomes of a value that is read as a spec. -/
inductive Verdict (v : Yaml.Value) (outcome : Except Failure Spec) : Prop
  | accepted (s : Spec) (came : outcome = .ok s) (wellFormed : WellFormed v)
      (described : Describes v s.document) (view : JobView) (seen : s.view = .ok view)
      (tells : Tells s.document view)
  | refused (came : Spec.Refuses outcome) (illFormed : ¬ WellFormed v)

theorem Spec.ofValue_verdict (v : Yaml.Value) : Verdict v (Spec.ofValue v) := by
  rcases Spec.ofValue_cases v with ⟨s, came⟩ | refuses
  · have described := Spec.ofValue_eq_ok.mp came
    obtain ⟨view, seen, tells⟩ := Spec.view_tells described
    exact .accepted s came (Spec.exists_ofValue_iff.mp ⟨s, came⟩) described view seen tells
  · refine .refused refuses fun wellFormed => ?_
    obtain ⟨s, came⟩ := Spec.exists_ofValue_iff.mpr wellFormed
    obtain ⟨reason, refused⟩ := refuses
    cases came.symm.trans refused

/-- Of all values exactly the well-formed ones are specs, and reading a source comes to the same
as reading the value that the source is read as. What is no spec is refused as invalid; a spec
holds what its value describes, and can be seen by a check. -/
theorem spec_iff_wellFormed (v : Yaml.Value) (source : String) :
    ((∃ s, Spec.ofValue v = .ok s) ↔ WellFormed v) ∧ Verdict v (Spec.ofValue v) ∧
      match Yaml.parse? source with
      | none => Spec.Refuses (Spec.parse source)
      | some v => Verdict v (Spec.parse source) := by
  refine ⟨Spec.exists_ofValue_iff, Spec.ofValue_verdict v, ?_⟩
  cases read : Yaml.parse? source with
  | none => exact ⟨Spec.yamlFault, by rw [Spec.parse, read]⟩
  | some w =>
    have same : Spec.parse source = Spec.ofValue w := by rw [Spec.parse, read]
    exact same ▸ Spec.ofValue_verdict w

end JobWatch.Job
