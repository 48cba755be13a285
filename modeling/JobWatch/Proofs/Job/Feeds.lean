import JobWatch.Proofs.Job.Selection

/-!
# What a selection of steps selects

A list of names is read from the left. As long as the names are those of steps, the queues found
so far only grow, so the first name that is no step decides whether the selection is refused, and
a selection that goes on with further names begins with the queues it had. The word for every
step is looked for before any name is. It is therefore no name like the others: a step that is
called by it cannot be asked for alone.
-/

namespace JobWatch.Job

namespace Spec

/-- Every list of names is one of steps, or has a first name that is no step. -/
theorem names_steps_or_stray (s : Spec) (names : List String) :
    (∃ steps : List Step, (∀ step ∈ steps, step ∈ s.document.steps) ∧
        steps.map (·.name) = names) ∨
      ∃ (steps : List Step) (stray : String) (after : List String),
        (∀ step ∈ steps, step ∈ s.document.steps) ∧ stray ∉ s.stepNames ∧
          steps.map (·.name) ++ stray :: after = names := by
  induction names with
  | nil => exact Or.inl ⟨[], by simp, rfl⟩
  | cons name rest ih =>
    by_cases known : name ∈ s.stepNames
    · obtain ⟨step, listed, rfl⟩ := List.mem_map.mp known
      rcases ih with ⟨steps, all, rfl⟩ | ⟨steps, stray, after, all, unknown, rfl⟩
      · exact Or.inl ⟨step :: steps, List.forall_mem_cons.mpr ⟨listed, all⟩, rfl⟩
      · exact Or.inr ⟨step :: steps, stray, after, List.forall_mem_cons.mpr ⟨listed, all⟩,
          unknown, rfl⟩
    · exact Or.inr ⟨[], name, rest, by simp, known, rfl⟩

theorem findStep?_eq_none {s : Spec} {name : String} (unknown : name ∉ s.stepNames) :
    s.findStep? name = none := by
  refine List.find?_eq_none.mpr fun step listed => ?_
  simp only [decide_eq_true_eq]
  exact fun same => unknown (List.mem_map.mpr ⟨step, listed, same⟩)

theorem queuesFrom_append (s : Spec) (queues first rest : List String) :
    s.queuesFrom queues (first ++ rest) =
      (s.queuesFrom queues first).bind fun found => s.queuesFrom found rest := by
  induction first generalizing queues with
  | nil => rfl
  | cons name later ih =>
    rw [List.cons_append, queuesFrom, queuesFrom]
    cases s.findStep? name with
    | none => rfl
    | some step => exact ih _

/-- Queues once found stay, in their places. -/
theorem prefix_of_queuesFrom {s : Spec} {names queues found : List String}
    (accepted : s.queuesFrom queues names = .ok found) : queues <+: found := by
  induction names generalizing queues with
  | nil =>
    cases accepted
    exact List.prefix_rfl
  | cons name rest ih =>
    rw [queuesFrom] at accepted
    cases looked : s.findStep? name with
    | none =>
      rw [looked] at accepted
      cases accepted
    | some step =>
      rw [looked] at accepted
      have one_more : queues <+: remember queues step.queue :=
        prefix_foldl_remember [step.queue] queues
      exact one_more.trans (ih accepted)

theorem queues_of_everyStep_mem (s : Spec) {selection : List String}
    (reserved : everyStep ∈ selection) : s.queues selection = s.queues [everyStep] := by
  rw [queues, queues, if_pos (by simpa using reserved), if_pos (by simp)]

theorem queues_of_plain (s : Spec) {selection : List String} (plain : everyStep ∉ selection) :
    s.queues selection = s.queuesFrom [] selection := by
  rw [queues, if_neg (by simpa using plain)]

/-- What becomes of a selection, after what is in it. -/
inductive Selects (s : Spec) (selection : List String) : Except Failure (List String) → Prop
  | every (reserved : everyStep ∈ selection) :
      Selects s selection (.ok (s.document.steps.map (·.queue)).eraseDups)
  | stray {before after : List String} {name : String} (plain : everyStep ∉ selection)
      (known : ∀ other ∈ before, other ∈ s.stepNames) (unknown : name ∉ s.stepNames)
      (cut : before ++ name :: after = selection) :
      Selects s selection (.error (.invalidJobSpec ("unknown step: " ++ name)))
  | steps {steps : List Step} (plain : everyStep ∉ selection)
      (listed : ∀ step ∈ steps, step ∈ s.document.steps)
      (named : steps.map (·.name) = selection) :
      Selects s selection (.ok (steps.map (·.queue)).eraseDups)

theorem queues_selects (s : Spec) (selection : List String) :
    s.Selects selection (s.queues selection) := by
  by_cases reserved : everyStep ∈ selection
  · rw [s.queues_of_everyStep_mem reserved, queues_everyStep, distinct_eq_eraseDups]
    exact .every reserved
  · rw [s.queues_of_plain reserved]
    rcases s.names_steps_or_stray selection with
      ⟨steps, listed, named⟩ | ⟨steps, stray, after, listed, unknown, cut⟩
    · have found := s.queuesFrom_steps listed []
      rw [named, ← distinct, distinct_eq_eraseDups] at found
      exact found ▸ .steps reserved listed named
    · have refused : s.queuesFrom [] selection = invalid ("unknown step: " ++ stray) := by
        rw [← cut, queuesFrom_append, queuesFrom_steps _ listed]
        simp only [Except.bind, queuesFrom, findStep?_eq_none unknown]
      have known : ∀ other ∈ steps.map (·.name), other ∈ s.stepNames := by
        intro other among
        obtain ⟨step, chosen, rfl⟩ := List.mem_map.mp among
        exact List.mem_map_of_mem (listed step chosen)
      exact refused ▸ .stray reserved known unknown cut

/-- What is selected are queues of the spec, each once. -/
theorem Selects.sound {s : Spec} {selection queues : List String}
    (selects : s.Selects selection (.ok queues)) :
    queues.Nodup ∧ queues ⊆ distinct (s.document.steps.map (·.queue)) := by
  have once (steps : List Step) (listed : ∀ step ∈ steps, step ∈ s.document.steps) :
      (steps.map (·.queue)).eraseDups.Nodup ∧
        (steps.map (·.queue)).eraseDups ⊆ distinct (s.document.steps.map (·.queue)) := by
    rw [← distinct_eq_eraseDups]
    refine ⟨nodup_distinct _, fun queue found => ?_⟩
    obtain ⟨step, chosen, rfl⟩ := List.mem_map.mp (mem_distinct.mp found)
    exact mem_distinct.mpr (List.mem_map_of_mem (listed step chosen))
  cases selects with
  | every => exact once _ fun _ listed => listed
  | steps plain listed named => exact once _ listed

theorem queues_prefix {s : Spec} {selection more queues : List String}
    (plain : everyStep ∉ selection ++ more) (accepted : s.queues (selection ++ more) = .ok queues) :
    ∃ first, s.queues selection = .ok first ∧ first <+: queues := by
  have plain_first : everyStep ∉ selection := fun named =>
    plain (List.mem_append_left more named)
  rw [s.queues_of_plain plain, queuesFrom_append] at accepted
  rw [s.queues_of_plain plain_first]
  cases found : s.queuesFrom [] selection with
  | error f =>
    rw [found] at accepted
    cases accepted
  | ok first =>
    rw [found] at accepted
    exact ⟨first, rfl, prefix_of_queuesFrom accepted⟩

/-- A selection with the word for every step in it comes to the queues of all steps, whatever else
it names. Of any other selection the first name that is no step is objected to; if there is none,
the queues of the steps named are what it comes to, in the order in which they first occur and
each once. What a selection comes to has no repeats and is among the queues that a check looks at,
and a selection that is gone on with keeps what it had in front. -/
theorem queues_of_selection (s : Spec) (selection : List String) :
    s.Selects selection (s.queues selection) ∧
      (everyStep ∈ selection → s.queues selection = s.queues [everyStep]) ∧
      (∀ queues, s.queues selection = .ok queues →
        queues.Nodup ∧ ∃ view, s.view = .ok view ∧ queues ⊆ view.relevantQueues) ∧
      ∀ more queues, everyStep ∉ selection ++ more → s.queues (selection ++ more) = .ok queues →
        ∃ first, s.queues selection = .ok first ∧ first <+: queues := by
  refine ⟨s.queues_selects selection, s.queues_of_everyStep_mem, ?_,
    fun more queues => queues_prefix⟩
  intro queues accepted
  have selects := s.queues_selects selection
  rw [accepted] at selects
  exact ⟨selects.sound.1, _, s.view_eq, selects.sound.2⟩

/-- Two of the three steps share a queue. -/
def nightly : Spec :=
  ⟨⟨"nightly", [⟨"extract", "a"⟩, ⟨"load", "b"⟩, ⟨"index", "a"⟩], [⟨"w", .all⟩]⟩, by decide⟩

theorem queues_of_selection_of_nightly :
    nightly.queues ["load", "all"] = nightly.queues [everyStep] ∧
      (["b", "a"].Nodup ∧
        ∃ view, nightly.view = .ok view ∧ ["b", "a"] ⊆ view.relevantQueues) ∧
      ∃ first, nightly.queues ["load"] = .ok first ∧ first <+: ["b", "a"] := by
  obtain ⟨-, every, -, -⟩ := queues_of_selection nightly ["load", "all"]
  obtain ⟨-, -, sound, -⟩ := queues_of_selection nightly ["load", "index", "extract"]
  obtain ⟨-, -, -, goes_on⟩ := queues_of_selection nightly ["load"]
  exact ⟨every (by decide), sound _ rfl, goes_on ["index", "extract"] _ (by decide) rfl⟩

/-- A step is asked for alone by its name, and its queue is what the name comes to, unless the
step is called by the word for every step. By that word the queues of all steps are meant, and
then its queue is alone only if all steps share it. -/
theorem queues_of_step (s : Spec) {step : Step} (listed : step ∈ s.document.steps) :
    (step.name ≠ everyStep → s.queues [step.name] = .ok [step.queue]) ∧
      (step.name = everyStep →
        s.queues [step.name] = .ok (s.document.steps.map (·.queue)).eraseDups) ∧
      (s.queues [step.name] = .ok [step.queue] ↔
        (step.name = everyStep → ∀ other ∈ s.document.steps, other.queue = step.queue)) := by
  have alone (other : step.name ≠ everyStep) : s.queues [step.name] = .ok [step.queue] := by
    rw [s.queues_of_plain (by simpa using Ne.symm other)]
    exact s.queuesFrom_steps (List.forall_mem_singleton.mpr listed) []
  have every (called : step.name = everyStep) :
      s.queues [step.name] = .ok (distinct (s.document.steps.map (·.queue))) := by
    rw [called, queues_everyStep]
  refine ⟨alone, distinct_eq_eraseDups (s.document.steps.map (·.queue)) ▸ every, ?_⟩
  by_cases called : step.name = everyStep
  · have among : step.queue ∈ s.document.steps.map (·.queue) := List.mem_map_of_mem listed
    rw [every called, Except.ok.injEq, distinct_eq_singleton_iff, List.forall_mem_map]
    simp only [among, true_and, called, true_implies]
  · exact iff_of_true (alone called) fun same => absurd same called

theorem queues_of_step_of_nightly :
    nightly.queues ["index"] = .ok ["a"] :=
  (queues_of_step nightly (by decide : ⟨"index", "a"⟩ ∈ nightly.document.steps)).1 (by decide)

/-- A step is called by the word for every step. -/
def reserved : String :=
  "name: nightly\nsteps:\n  - name: all\n    queue: a\n  - name: load\n    queue: b\n" ++
    "workers:\n  - name: w\n"

theorem queues_of_step_all :
    ∃ s, parse reserved = .ok s ∧ ⟨"all", "a"⟩ ∈ s.document.steps ∧
      s.queues ["all"] = .ok ["a", "b"] := by
  have read : (parse reserved).toOption.map (·.document) =
      some ⟨"nightly", [⟨"all", "a"⟩, ⟨"load", "b"⟩], [⟨"w", .all⟩]⟩ := by decide +kernel
  cases made : parse reserved with
  | error f =>
    rw [made] at read
    cases read
  | ok s =>
    rw [made] at read
    have document : s.document = ⟨"nightly", [⟨"all", "a"⟩, ⟨"load", "b"⟩], [⟨"w", .all⟩]⟩ :=
      Option.some.inj read
    refine ⟨s, rfl, document ▸ List.mem_cons_self, ?_⟩
    have all := s.queues_everyStep
    rw [document] at all
    exact all

end Spec

end JobWatch.Job
