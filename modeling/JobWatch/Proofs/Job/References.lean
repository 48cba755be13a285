import JobWatch.Proofs.Job.Acceptance

/-!
# Which documents are refused

Here a document may hold any texts, whether or not a value describes it. The main statement says
which documents make no spec: those in which two steps share a name, and those in which the first
stray step on the list of some worker has a name. Where that step is the nameless one, neither it
nor a stray step behind it is noticed. It is not said which conflict of several is reported.
-/

namespace JobWatch.Job

/-- The first step on the list of a worker that is no step of the document. -/
def Document.FirstStray (d : Document) (w : Worker) (s : String) : Prop :=
  ∃ before after, w.steps = .only (before ++ s :: after) ∧ (∀ t ∈ before, t ∈ d.stepNames) ∧
    s ∉ d.stepNames

/-- Some worker's first stray step has a name. -/
def Document.NamesStray (d : Document) : Prop :=
  ∃ w ∈ d.workers, ∃ s, d.FirstStray w s ∧ s ≠ ""

theorem Document.FirstStray.not_isCovered {d : Document} {w : Worker} {s : String}
    (listed : w ∈ d.workers) (stray : d.FirstStray w s) : ¬ d.IsCovered := by
  obtain ⟨before, after, only, -, unknown⟩ := stray
  intro covered
  have among : s ∈ before ++ s :: after := List.mem_append_right _ List.mem_cons_self
  exact unknown (covered w listed _ only s among)

/-- The step that is held against a worker is its first stray one, if that has a name. -/
theorem danglingStep?_eq_some_iff {d : Document} {w : Worker} {s : String} :
    danglingStep? d.stepNames w.steps = some s ↔ d.FirstStray w s ∧ s ≠ "" := by
  rw [Document.FirstStray]
  cases w.steps with
  | all => simp [danglingStep?]
  | only names =>
    simp only [danglingStep?, Option.filter_eq_some_iff, List.find?_eq_some_iff_append,
      Coverage.only.injEq, decide_eq_true_eq, Bool.not_eq_true', List.contains_eq_mem,
      decide_eq_false_iff_not, Bool.not_not]
    constructor
    · rintro ⟨⟨unknown, before, after, rfl, known⟩, named⟩
      exact ⟨⟨before, after, rfl, known, unknown⟩, named⟩
    · rintro ⟨⟨before, after, rfl, known, unknown⟩, named⟩
      exact ⟨⟨unknown, before, after, rfl, known⟩, named⟩

theorem Spec.refuses_ofDocument_iff {d : Document} :
    Refuses (ofDocument d) ↔ d.conflict? ≠ none := by
  constructor
  · rintro ⟨reason, refused⟩ sound
    have made : ofDocument d = .ok ⟨d, sound⟩ := ofDocument_eq_ok.mpr rfl
    cases made.symm.trans refused
  · intro conflict
    rcases ofDocument_cases d with ⟨s, made⟩ | refuses
    · exact absurd (ofDocument_eq_ok.mp made ▸ s.sound) conflict
    · exact refuses

theorem conflict?_ne_none_iff {d : Document} :
    d.conflict? ≠ none ↔ ¬ d.stepNames.Nodup ∨ d.NamesStray := by
  rw [Ne, conflict?_eq_none_iff, not_and_or]
  refine or_congr_right ?_
  simp only [not_forall, Document.NamesStray, ← danglingStep?_eq_some_iff, exists_prop,
    Option.ne_none_iff_exists', ← Ne.eq_def]

/-- A document is refused, as invalid, exactly if two of its steps share a name or the first stray
step of some worker has a name; otherwise it makes a spec. So of the documents whose step names
differ, those that name a stray step are refused, unless the first one of every worker that has
any is nameless. -/
theorem document_refused_iff (d : Document) :
    (Spec.Refuses (Spec.ofDocument d) ↔ ¬ d.stepNames.Nodup ∨ d.NamesStray) ∧
      (¬ Spec.Refuses (Spec.ofDocument d) ↔ ∃ s, Spec.ofDocument d = .ok s ∧ s.document = d) ∧
      ((Spec.Refuses (Spec.ofDocument d) ↔ ¬ d.stepNames.Nodup ∨ ¬ d.IsCovered) ↔
        (d.stepNames.Nodup → ¬ d.IsCovered → d.NamesStray)) := by
  have refused : Spec.Refuses (Spec.ofDocument d) ↔ ¬ d.stepNames.Nodup ∨ d.NamesStray :=
    Spec.refuses_ofDocument_iff.trans conflict?_ne_none_iff
  refine ⟨refused, ?_, ?_⟩
  · constructor
    · intro accepted
      obtain ⟨s, made⟩ := (Spec.ofDocument_cases d).resolve_right accepted
      exact ⟨s, made, Spec.ofDocument_eq_ok.mp made⟩
    · rintro ⟨s, made, -⟩ ⟨reason, refused⟩
      cases made.symm.trans refused
  · have noticed : d.NamesStray → ¬ d.IsCovered := by
      rintro ⟨w, listed, s, stray, -⟩
      exact stray.not_isCovered listed
    rw [refused]
    constructor
    · intro same unique uncovered
      exact (same.mpr (Or.inr uncovered)).resolve_left (not_not.mpr unique)
    · intro told
      refine ⟨Or.imp_right noticed, ?_⟩
      rintro (repeated | uncovered)
      · exact Or.inl repeated
      · by_cases unique : d.stepNames.Nodup
        · exact Or.inr (told unique uncovered)
        · exact Or.inl unique

/-- The only worker names two steps that are not there, the first of them by no name. -/
theorem nameless_stray_passes :
    let d : Document := ⟨"nightly", [⟨"extract", "a"⟩], [⟨"w", .only ["", "load"]⟩]⟩
    (Spec.ofDocument d).isOk = true ∧ ¬ d.IsCovered := by
  intro d
  refine ⟨by decide, fun covered => ?_⟩
  have known := covered ⟨"w", .only ["", "load"]⟩ List.mem_cons_self _ rfl "load" (by decide)
  exact absurd known (by decide)

end JobWatch.Job
