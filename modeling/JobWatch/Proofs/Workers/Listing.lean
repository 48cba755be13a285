import JobWatch.Proofs.Pattern.Search
import JobWatch.Proofs.Status
import JobWatch.Proofs.Text.Order

/-!
# What a listing of workers holds

A reading says which workers are subscribed to which queues, and a query asks for some of them. The
main statement says which listing answers the query, that nothing else about the reading and the
query matters to it, and what becomes of a text that is no pattern. How a pattern is found in a text
is left to the search itself.
-/

namespace JobWatch

/-- The reading lists the worker for the queue. -/
def Subscribed (active : Option ActiveQueues) (queue worker : String) : Prop :=
  ∃ workers, (queue, workers) ∈ (active.getD .empty).toList ∧ worker ∈ workers

/-! ## What is asked for -/

/-- A pattern is asked for that can be read, or none. -/
inductive PatternFilter.IsValid : PatternFilter → Prop
  | absent : IsValid .absent
  | text {source : String} {p : Pattern} (read : Pattern.read {} source = .ok p) :
      IsValid (.text source)
  | given {p : Pattern} {left : Nat} : IsValid (.given p left)

/-- No pattern is asked for, or it is found in the name of the worker. -/
inductive PatternFilter.Passes (worker : String) : PatternFilter → Prop
  | absent : Passes worker .absent
  | empty : Passes worker (.text "")
  | text {source : String} {p : Pattern} (read : Pattern.read {} source = .ok p)
      (found : p.occursIn worker = true) : Passes worker (.text source)
  | given {p : Pattern} {left : Nat} (found : p.occursIn worker = true) :
      Passes worker (.given p left)

/-- Two filters ask for the same: they are the same, or the same pattern is given in both, whether
for one occurrence or for all, and whatever use has been made of it. -/
inductive PatternFilter.Alike : PatternFilter → PatternFilter → Prop
  | refl (filter : PatternFilter) : Alike filter filter
  | given (p : Pattern) (all : Bool) (left left' : Nat) :
      Alike (.given p left) (.given (p.askedFor all) left')

/-- The worker passes all filters of the query. -/
structure WorkerQuery.Admits (q : WorkerQuery) (active : Option ActiveQueues) (worker : String) :
    Prop where
  named : q.workerNames = [] ∨ ∃ name ∈ q.workerNames, name.toList <:+: worker.toList
  subscribed : q.queues = [] ∨ ∃ queue ∈ q.queues, Subscribed active queue worker
  matched : q.pattern.Passes worker

/-- Two queries name the same workers and queues, in whatever order and however often, and ask for
the same pattern. -/
structure WorkerQuery.Alike (q q' : WorkerQuery) : Prop where
  workerNames : ∀ name, name ∈ q'.workerNames ↔ name ∈ q.workerNames
  queues : ∀ queue, queue ∈ q'.queues ↔ queue ∈ q.queues
  pattern : q.pattern.Alike q'.pattern

/-- The listing that a query asks for. -/
structure Listing (active : Option ActiveQueues) (q : WorkerQuery) (infos : List WorkerInfo) :
    Prop where
  /-- Those who are subscribed to some queue and pass the query are listed, and nobody else. -/
  workers : ∀ worker, worker ∈ infos.map (·.worker) ↔
    (∃ queue, Subscribed active queue worker) ∧ q.Admits active worker
  /-- Each is listed once, in the order of their names. -/
  ascending : Text.Ascending (infos.map (·.worker))
  /-- With each stand all queues that it is subscribed to, asked for or not, in order. -/
  queues : ∀ info ∈ infos, (∀ queue, queue ∈ info.queues ↔ Subscribed active queue info.worker) ∧
    Text.Ascending info.queues

/-! ## Turning a map around -/

/-- The queues filed under a worker. -/
def queuesOf (worker : String) (infos : List WorkerInfo) : List String :=
  ((infos.find? (·.worker = worker)).map (·.queues)).getD []

theorem queuesOf_cons (other : String) (info : WorkerInfo) (rest : List WorkerInfo) :
    queuesOf other (info :: rest) =
      if info.worker = other then info.queues else queuesOf other rest := by
  rw [queuesOf, List.find?_cons]
  by_cases here : info.worker = other
  · simp [here]
  · simp [here, queuesOf]

theorem queuesOf_subscribe (queue worker other : String) (infos : List WorkerInfo) :
    queuesOf other (subscribe queue worker infos) =
      if other = worker then remember (queuesOf other infos) queue else queuesOf other infos := by
  induction infos with
  | nil =>
    rw [subscribe, queuesOf_cons]
    by_cases same : other = worker
    · simp [same, queuesOf, remember]
    · simp [same, Ne.symm same, queuesOf]
  | cons info rest ih =>
    unfold subscribe
    by_cases here : info.worker = worker
    · rw [if_pos here, queuesOf_cons, queuesOf_cons, here]
      by_cases same : other = worker
      · rw [if_pos same.symm, if_pos same.symm, if_pos same]
      · rw [if_neg (Ne.symm same), if_neg (Ne.symm same), if_neg same]
    · rw [if_neg here, queuesOf_cons, queuesOf_cons, ih]
      by_cases first : info.worker = other
      · rw [if_pos first, if_pos first, if_neg (first ▸ here)]
      · rw [if_neg first, if_neg first]

theorem workers_subscribe (queue worker : String) (infos : List WorkerInfo) :
    (subscribe queue worker infos).map (·.worker) = remember (infos.map (·.worker)) worker := by
  induction infos with
  | nil => simp [subscribe, remember]
  | cons info rest ih =>
    unfold subscribe
    by_cases here : info.worker = worker
    · simp [here, remember]
    · rw [if_neg here, List.map_cons, ih, List.map_cons, remember, remember]
      by_cases later : worker ∈ rest.map (·.worker)
      · rw [if_pos later, if_pos (List.mem_cons_of_mem _ later)]
      · rw [if_neg later, if_neg (by simpa [Ne.symm here] using later), List.cons_append]

/-- What is filed is what a relation of queues and workers says, each worker and each of its queues
once. -/
structure Inverts (infos : List WorkerInfo) (lists : String → String → Prop) : Prop where
  unique : (infos.map (·.worker)).Nodup
  workers : ∀ worker, worker ∈ infos.map (·.worker) ↔ ∃ queue, lists queue worker
  distinct : ∀ worker, (queuesOf worker infos).Nodup
  queues : ∀ queue worker, queue ∈ queuesOf worker infos ↔ lists queue worker

theorem Inverts.congr {infos : List WorkerInfo} {lists lists' : String → String → Prop}
    (h : Inverts infos lists) (same : ∀ queue worker, lists queue worker ↔ lists' queue worker) :
    Inverts infos lists' where
  unique := h.unique
  workers worker := (h.workers worker).trans (exists_congr fun queue => same queue worker)
  distinct := h.distinct
  queues queue worker := (h.queues queue worker).trans (same queue worker)

theorem inverts_nil : Inverts [] fun _ _ => False where
  unique := List.nodup_nil
  workers worker := by simp
  distinct worker := List.nodup_nil
  queues queue worker := by simp [queuesOf]

theorem Inverts.subscribe {infos : List WorkerInfo} {lists : String → String → Prop}
    (h : Inverts infos lists) (queue worker : String) :
    Inverts (subscribe queue worker infos) fun queue' worker' =>
      lists queue' worker' ∨ queue' = queue ∧ worker' = worker where
  unique := by
    rw [workers_subscribe]
    exact nodup_remember h.unique
  workers worker' := by
    rw [workers_subscribe, mem_remember, h.workers, exists_or]
    simp
  distinct worker' := by
    rw [queuesOf_subscribe]
    by_cases same : worker' = worker
    · rw [if_pos same]
      exact nodup_remember (h.distinct worker')
    · rw [if_neg same]
      exact h.distinct worker'
  queues queue' worker' := by
    rw [queuesOf_subscribe]
    by_cases same : worker' = worker
    · rw [if_pos same, mem_remember, h.queues]
      simp [same]
    · rw [if_neg same, h.queues]
      simp [same]

theorem Inverts.subscribeAll {infos : List WorkerInfo} {lists : String → String → Prop}
    (h : Inverts infos lists) (queue : String) (workers : List String) :
    Inverts (workers.foldl (fun infos worker => JobWatch.subscribe queue worker infos) infos)
      fun queue' worker' => lists queue' worker' ∨ queue' = queue ∧ worker' ∈ workers := by
  induction workers generalizing infos lists with
  | nil => exact h.congr (by simp)
  | cons worker rest ih =>
    refine (ih (h.subscribe queue worker)).congr fun queue' worker' => ?_
    rw [List.mem_cons, and_or_left, or_assoc]

theorem inverts_byWorker (active : ActiveQueues) :
    Inverts (byWorker active) (Subscribed (some active)) := by
  -- any entries, filed after others
  have entries (l : List (String × List String)) {infos : List WorkerInfo}
      {lists : String → String → Prop} (h : Inverts infos lists) :
      Inverts (l.foldl (fun infos e =>
          e.2.foldl (fun infos worker => subscribe e.1 worker infos) infos) infos)
        fun queue worker => lists queue worker ∨
          ∃ workers, (queue, workers) ∈ l ∧ worker ∈ workers := by
    induction l generalizing infos lists with
    | nil => exact h.congr (by simp)
    | cons e rest ih =>
      refine (ih (h.subscribeAll e.1 e.2)).congr fun queue worker => ?_
      simp only [List.mem_cons, or_and_right, exists_or, or_assoc, Prod.ext_iff]
      refine or_congr_right (or_congr_left ?_)
      simp
  exact (entries active.toList inverts_nil).congr fun queue worker => by simp [Subscribed]

theorem Inverts.of_mem {infos : List WorkerInfo} {lists : String → String → Prop}
    (h : Inverts infos lists) {info : WorkerInfo} (listed : info ∈ infos) :
    info.queues.Nodup ∧ ∀ queue, queue ∈ info.queues ↔ lists queue info.worker := by
  have filed : queuesOf info.worker infos = info.queues := by
    rw [queuesOf, find?_key h.unique listed]
    rfl
  exact ⟨filed ▸ h.distinct info.worker, fun queue => filed ▸ h.queues queue info.worker⟩

/-! ## Passing the query -/

theorem PatternFilter.exists_compile {filter : PatternFilter} (valid : filter.IsValid) :
    ∃ pattern, filter.compile = .ok pattern ∧
      ∀ worker, pattern.all (·.occursIn worker) = true ↔ filter.Passes worker := by
  cases valid with
  | absent => exact ⟨none, rfl, fun worker => ⟨fun _ => .absent, fun _ => rfl⟩⟩
  | given =>
    refine ⟨_, rfl, fun worker => ⟨.given, fun passes => ?_⟩⟩
    cases passes with
    | given found => exact found
  | @text source p read =>
    by_cases nothing : source = ""
    · subst nothing
      exact ⟨none, rfl, fun worker => ⟨fun _ => .empty, fun _ => rfl⟩⟩
    · refine ⟨some p, by rw [compile, if_neg nothing, read], fun worker => ⟨.text read, ?_⟩⟩
      intro passes
      cases passes with
      | empty => exact absurd rfl nothing
      | text read' found =>
        cases read.symm.trans read'
        exact found

theorem PatternFilter.compile_of_fault {source : String} {fault : Pattern.Fault}
    (read : Pattern.read {} source = .error fault) :
    (PatternFilter.text source).compile = .error (.configuration
      ("invalid worker regex " ++ source ++ ": " ++ fault.describe source)) := by
  have something : source ≠ "" := by
    rintro rfl
    have fine : (Pattern.read {} "").isOk = true := by decide +kernel
    rw [read] at fine
    cases fine
  rw [compile, if_neg something, read]

/-- A filter that is not valid is a text that cannot be read. -/
theorem PatternFilter.fault_of_not_isValid {filter : PatternFilter} (invalid : ¬ filter.IsValid) :
    ∃ source fault, filter = .text source ∧ Pattern.read {} source = .error fault := by
  cases filter with
  | absent => exact absurd .absent invalid
  | given p left => exact absurd .given invalid
  | text source =>
    cases read : Pattern.read {} source with
    | ok p => exact absurd (.text read) invalid
    | error fault => exact ⟨source, fault, rfl, read⟩

theorem PatternFilter.Alike.passes_iff {filter filter' : PatternFilter} (h : filter.Alike filter')
    (worker : String) : filter'.Passes worker ↔ filter.Passes worker := by
  cases h with
  | refl => exact Iff.rfl
  | given p all left left' =>
    constructor
    · intro passes
      cases passes with
      | given found => exact .given (by rwa [Pattern.occursIn_askedFor] at found)
    · intro passes
      cases passes with
      | given found => exact .given (by rwa [Pattern.occursIn_askedFor])

theorem PatternFilter.Alike.isValid {filter filter' : PatternFilter} (h : filter.Alike filter')
    (valid : filter.IsValid) : filter'.IsValid := by
  cases h with
  | refl => exact valid
  | given => exact .given

theorem PatternFilter.Alike.eq_text {filter : PatternFilter} {source : String}
    (h : (PatternFilter.text source).Alike filter) : filter = .text source := by
  cases h
  rfl

theorem accepts_iff {active : ActiveQueues} {q : WorkerQuery} {pattern : Option Pattern}
    (means : ∀ worker, pattern.all (·.occursIn worker) = true ↔ q.pattern.Passes worker)
    {info : WorkerInfo} (listed : info ∈ byWorker active) :
    q.accepts pattern info = true ↔ q.Admits (some active) info.worker := by
  obtain ⟨-, queues⟩ := (inverts_byWorker active).of_mem listed
  have named : (q.workerNames.isEmpty || q.workerNames.any (Text.contains info.worker)) = true ↔
      q.workerNames = [] ∨ ∃ name ∈ q.workerNames, name.toList <:+: info.worker.toList := by
    rw [Bool.or_eq_true, List.isEmpty_iff, List.any_eq_true]
    exact or_congr_right (exists_congr fun name => and_congr_right fun _ => Text.contains_iff)
  have subscribed : (q.queues.isEmpty || info.queues.any (· ∈ q.queues)) = true ↔
      q.queues = [] ∨ ∃ queue ∈ q.queues, Subscribed (some active) queue info.worker := by
    rw [Bool.or_eq_true, List.isEmpty_iff, List.any_eq_true]
    refine or_congr_right (exists_congr fun queue => ?_)
    rw [queues, decide_eq_true_iff, and_comm]
  rw [WorkerQuery.accepts, Bool.and_eq_true, Bool.and_eq_true, named, subscribed, means]
  exact ⟨fun ⟨⟨a, b⟩, c⟩ => ⟨a, b, c⟩, fun h => ⟨⟨h.named, h.subscribed⟩, h.matched⟩⟩

/-! ## The listing -/

theorem filterWorkers_of_compile (active : Option ActiveQueues) {q : WorkerQuery}
    {pattern : Option Pattern} (compiles : q.pattern.compile = .ok pattern) :
    filterWorkers active q = .ok (Text.sortBy WorkerInfo.worker
      (((byWorker (active.getD .empty)).filter (q.accepts pattern)).map fun info =>
        { info with queues := Text.sort info.queues })) := by
  rw [filterWorkers, compiles]
  rfl

theorem listing_sorted (active : ActiveQueues) {q : WorkerQuery} {pattern : Option Pattern}
    (means : ∀ worker, pattern.all (·.occursIn worker) = true ↔ q.pattern.Passes worker) :
    Listing (some active) q (Text.sortBy WorkerInfo.worker
      (((byWorker active).filter (q.accepts pattern)).map fun info =>
        { info with queues := Text.sort info.queues })) := by
  have inverts := inverts_byWorker active
  let passed := (byWorker active).filter (q.accepts pattern)
  let tidied := passed.map fun info => { info with queues := Text.sort info.queues }
  have names : tidied.map (·.worker) = passed.map (·.worker) := List.map_map
  have sorted := Text.sortBy_perm WorkerInfo.worker tidied
  have unique : (tidied.map (·.worker)).Nodup := by
    rw [names]
    exact (List.filter_sublist.map _).nodup inverts.unique
  refine ⟨fun worker => ?_, Text.ascending_sortBy _ unique, fun info listed => ?_⟩
  · rw [(sorted.map _).mem_iff, names, ← inverts.workers worker, List.mem_map]
    constructor
    · rintro ⟨info, among, rfl⟩
      obtain ⟨filed, passes⟩ := List.mem_filter.mp among
      exact ⟨List.mem_map_of_mem filed, (accepts_iff means filed).mp passes⟩
    · rintro ⟨named, admitted⟩
      obtain ⟨info, filed, rfl⟩ := List.mem_map.mp named
      exact ⟨info, List.mem_filter.mpr ⟨filed, (accepts_iff means filed).mpr admitted⟩, rfl⟩
  · obtain ⟨info, among, rfl⟩ := List.mem_map.mp (sorted.mem_iff.mp listed)
    obtain ⟨distinct, queues⟩ := inverts.of_mem (List.mem_filter.mp among).1
    exact ⟨fun queue => Text.mem_sort.trans (queues queue), Text.ascending_sort distinct⟩

section Alike

variable {active active' : Option ActiveQueues} {q q' : WorkerQuery}

/-- Who is admitted hangs on the subscriptions and on what the query names, and on nothing else. -/
theorem WorkerQuery.Alike.admits_iff (alike : q.Alike q')
    (same : ∀ queue worker, Subscribed active' queue worker ↔ Subscribed active queue worker)
    (worker : String) : q'.Admits active' worker ↔ q.Admits active worker := by
  have named : (q'.workerNames = [] ∨ ∃ name ∈ q'.workerNames, name.toList <:+: worker.toList) ↔
      q.workerNames = [] ∨ ∃ name ∈ q.workerNames, name.toList <:+: worker.toList := by
    simp only [List.eq_nil_iff_forall_not_mem, alike.workerNames]
  have subscribed : (q'.queues = [] ∨ ∃ queue ∈ q'.queues, Subscribed active' queue worker) ↔
      q.queues = [] ∨ ∃ queue ∈ q.queues, Subscribed active queue worker := by
    simp only [List.eq_nil_iff_forall_not_mem, alike.queues, same]
  have matched := alike.pattern.passes_iff worker
  exact ⟨fun h => ⟨named.mp h.named, subscribed.mp h.subscribed, matched.mp h.matched⟩,
    fun h => ⟨named.mpr h.named, subscribed.mpr h.subscribed, matched.mpr h.matched⟩⟩

theorem Listing.congr {infos : List WorkerInfo} (h : Listing active' q' infos)
    (alike : q.Alike q')
    (same : ∀ queue worker, Subscribed active' queue worker ↔ Subscribed active queue worker) :
    Listing active q infos where
  workers worker := by
    rw [h.workers, alike.admits_iff same]
    exact and_congr_left fun _ => exists_congr fun queue => same queue worker
  ascending := h.ascending
  queues info listed :=
    ⟨fun queue => ((h.queues info listed).1 queue).trans (same queue info.worker),
      (h.queues info listed).2⟩

/-- There is only one listing that a query asks for. -/
theorem Listing.unique {infos infos' : List WorkerInfo} (h : Listing active q infos)
    (h' : Listing active q infos') : infos = infos' := by
  have names : infos.map (·.worker) = infos'.map (·.worker) :=
    h.ascending.ext h'.ascending fun worker => (h.workers worker).trans (h'.workers worker).symm
  have within {l l' : List WorkerInfo} (hl : Listing active q l) (hl' : Listing active q l')
      (names : l.map (·.worker) = l'.map (·.worker)) {info : WorkerInfo} (listed : info ∈ l) :
      info ∈ l' := by
    have among : info.worker ∈ l'.map (·.worker) := names ▸ List.mem_map_of_mem listed
    obtain ⟨info', listed', sameWorker⟩ := List.mem_map.mp among
    have sameQueues : info'.queues = info.queues :=
      (hl'.queues info' listed').2.ext (hl.queues info listed).2 fun queue => by
        rw [(hl'.queues info' listed').1, (hl.queues info listed).1, sameWorker]
    obtain ⟨worker, queues⟩ := info
    obtain ⟨worker', queues'⟩ := info'
    obtain rfl : worker' = worker := sameWorker
    obtain rfl : queues' = queues := sameQueues
    exact listed'
  refine List.Perm.eq_of_pairwise (fun a b _ _ before after => absurd after before.not_swap)
    (List.pairwise_map.mp h.ascending) (List.pairwise_map.mp h'.ascending) ?_
  refine (List.perm_ext_iff_of_nodup h.ascending.nodup.of_map h'.ascending.nodup.of_map).mpr ?_
  exact fun info => ⟨within h h' names, within h' h names.symm⟩

end Alike

/-- Every query that can be read is answered by the listing that it asks for. -/
theorem exists_listing (active : Option ActiveQueues) {q : WorkerQuery}
    (valid : q.pattern.IsValid) :
    ∃ infos, filterWorkers active q = .ok infos ∧ Listing active q infos := by
  obtain ⟨pattern, compiles, means⟩ := PatternFilter.exists_compile valid
  have itself : q.Alike q := ⟨fun _ => Iff.rfl, fun _ => Iff.rfl, .refl _⟩
  have listing := listing_sorted (active.getD .empty) means
  exact ⟨_, filterWorkers_of_compile active compiles, listing.congr itself fun _ _ => Iff.rfl⟩

theorem filterWorkers_of_fault (active : Option ActiveQueues) {q : WorkerQuery} {source : String}
    {fault : Pattern.Fault} (asked : q.pattern = .text source)
    (read : Pattern.read {} source = .error fault) :
    filterWorkers active q = .error (.configuration
      ("invalid worker regex " ++ source ++ ": " ++ fault.describe source)) := by
  rw [filterWorkers, asked, PatternFilter.compile_of_fault read]
  rfl

/-- A query whose pattern can be read is answered by the listing that it asks for. What answers a
query is the same for every reading with the same subscriptions and every query alike, be it a
listing or a failure. A text that is no pattern is refused whatever the reading. -/
theorem query_answered_by_listing (active : Option ActiveQueues) (q : WorkerQuery) :
    (q.pattern.IsValid → ∃ infos, filterWorkers active q = .ok infos ∧ Listing active q infos) ∧
      (∀ active' q', q.Alike q' →
        (∀ queue worker, Subscribed active' queue worker ↔ Subscribed active queue worker) →
        filterWorkers active' q' = filterWorkers active q) ∧
      ∀ source fault, q.pattern = .text source → Pattern.read {} source = .error fault →
        filterWorkers active q = .error (.configuration
          ("invalid worker regex " ++ source ++ ": " ++ fault.describe source)) := by
  refine ⟨exists_listing active, fun active' q' alike same => ?_,
    fun _ _ asked read => filterWorkers_of_fault active asked read⟩
  by_cases valid : q.pattern.IsValid
  · obtain ⟨infos, answer, listing⟩ := exists_listing active valid
    obtain ⟨infos', answer', listing'⟩ := exists_listing active' (alike.pattern.isValid valid)
    rw [answer, answer', listing.unique (listing'.congr alike same)]
  · obtain ⟨source, fault, asked, read⟩ := PatternFilter.fault_of_not_isValid valid
    have asked' : q'.pattern = .text source := (asked ▸ alike.pattern).eq_text
    rw [filterWorkers_of_fault active asked read, filterWorkers_of_fault active' asked' read]

/-- A worker stands with all its queues, asked for or not. -/
example : filterWorkers (some ((KeyedMap.empty.file "b" ["w2", "w1", "w2"]).file "a" ["w2"]))
    { queues := ["b"] } = .ok [⟨"w1", ["b"]⟩, ⟨"w2", ["a", "b"]⟩] := by
  rfl

/-- A round that has to be made may take nothing: here the first stops at the beginning, the second
takes the name. -/
example : filterWorkers (some (KeyedMap.empty.file "a" ["celery@h1", "media@h1"]))
    { pattern := .text "(?:^|celery)\x7b2\x7d@" } = .ok [⟨"celery@h1", ["a"]⟩] := by
  cbv

end JobWatch
