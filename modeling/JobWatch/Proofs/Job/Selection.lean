import JobWatch.Job.Spec
import JobWatch.Proofs.Status

/-!
# The queues of steps

The step names of a spec differ, so each of its steps is found by its name. The queues of all
steps are therefore known without looking anything up, and asking for them cannot fail. Of
selections of other names it is only said what they fail with, if they fail.
-/

namespace JobWatch.Job

/-- Without a conflict no name is repeated, and no worker is held to name a step that is not
there. -/
theorem conflict?_eq_none_iff {d : Document} :
    d.conflict? = none ↔
      d.stepNames.Nodup ∧ ∀ w ∈ d.workers, danglingStep? d.stepNames w.steps = none := by
  have unique : (distinct d.stepNames).length = d.steps.length ↔ d.stepNames.Nodup := by
    rw [← length_distinct_eq_iff, Document.stepNames, List.length_map]
  rw [Document.conflict?, ← unique]
  by_cases repeated : (distinct d.stepNames).length = d.steps.length
  · simp [repeated]
  · simp [repeated]

namespace Spec

theorem nodup_stepNames (s : Spec) : s.stepNames.Nodup := (conflict?_eq_none_iff.mp s.sound).1

theorem findStep?_of_mem (s : Spec) {step : Step} (listed : step ∈ s.document.steps) :
    s.findStep? step.name = some step :=
  find?_key s.nodup_stepNames listed

theorem queuesFrom_steps (s : Spec) {steps : List Step}
    (listed : ∀ step ∈ steps, step ∈ s.document.steps) (queues : List String) :
    s.queuesFrom queues (steps.map (·.name)) =
      .ok ((steps.map (·.queue)).foldl remember queues) := by
  induction steps generalizing queues with
  | nil => rfl
  | cons first rest ih =>
    rw [List.map_cons, queuesFrom, s.findStep?_of_mem (listed first List.mem_cons_self)]
    exact ih (fun step later => listed step (List.mem_cons_of_mem _ later)) _

/-- Whoever asks for every step is told the queues of all steps. -/
theorem queues_everyStep (s : Spec) :
    s.queues [everyStep] = .ok (distinct (s.document.steps.map (·.queue))) :=
  s.queuesFrom_steps (fun _ listed => listed) []

theorem view_eq (s : Spec) :
    s.view = .ok ⟨distinct (s.document.steps.map (·.queue)), s.workerNames⟩ := by
  rw [view, queues_everyStep]
  rfl

/-- If a selection is refused, it is because something about it is invalid. -/
theorem exists_reason_of_queues {s : Spec} {selection : List String} {f : Failure}
    (refused : s.queues selection = .error f) : ∃ reason, f = .invalidJobSpec reason := by
  have looked (queues names : List String) (refused : s.queuesFrom queues names = .error f) :
      ∃ reason, f = .invalidJobSpec reason := by
    induction names generalizing queues with
    | nil => cases refused
    | cons name rest ih =>
      rw [queuesFrom] at refused
      cases found : s.findStep? name with
      | none =>
        rw [found] at refused
        cases refused
        exact ⟨_, rfl⟩
      | some step =>
        rw [found] at refused
        exact ih _ refused
  exact looked _ _ refused

end Spec

end JobWatch.Job
