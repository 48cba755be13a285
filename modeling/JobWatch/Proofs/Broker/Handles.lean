import JobWatch.Proofs.Broker.Trail
import Mathlib.Data.List.Induction
import Mathlib.Tactic.ByContra

/-!
# The handles in a trail of calls

From a trail and from what the broker makes of it follows the ledger of all handles that were ever
opened, each with the number of times it was closed. A call to close a queue's handle means the
newest one, the only one that its holder can still know. That a handle is closed does not mean
that closing it succeeded.
-/

namespace JobWatch

variable {β : Type}

/-- A handle that was opened for a queue, and how often it was closed. -/
structure Handle where
  queue : String
  closes : Nat
deriving DecidableEq, Repr

namespace Handle

def isStanding (h : Handle) : Bool := h.closes == 0

/-- Closes the newest handle of a queue once more. -/
def closeNewest (queue : String) : List Handle → List Handle
  | [] => []
  | h :: older =>
    if h.queue = queue then { h with closes := h.closes + 1 } :: older
    else h :: closeNewest queue older

/-- The ledger after a dealing. A call that did not go through opens no handle. -/
def enter (handles : List Handle) (d : Dealing) : List Handle :=
  match d.call with
  | .openHandle queue _ => if d.passed then ⟨queue, 0⟩ :: handles else handles
  | .close queue => closeNewest queue handles
  | _ => handles

/-- The queues of the handles that were never closed, in the order in which these were opened. -/
def standing (handles : List Handle) : List String :=
  ((handles.filter isStanding).map queue).reverse

/-- No handle is closed twice, and a queue gets a new handle only after its older ones were
closed. -/
structure Tidy (handles : List Handle) : Prop where
  closes_le : ∀ h ∈ handles, h.closes ≤ 1
  replaced : handles.Pairwise fun newer older => newer.queue = older.queue → older.closes = 1

theorem mem_standing {handles : List Handle} {queue : String} :
    queue ∈ standing handles ↔ ∃ h ∈ handles, h.queue = queue ∧ h.closes = 0 := by
  simp only [standing, isStanding, List.mem_reverse, List.mem_map, List.mem_filter, beq_iff_eq]
  constructor
  · rintro ⟨h, ⟨listed, never⟩, named⟩
    exact ⟨h, listed, named, never⟩
  · rintro ⟨h, listed, named, never⟩
    exact ⟨h, ⟨listed, never⟩, named⟩

theorem standing_cons (h : Handle) (older : List Handle) :
    standing (h :: older) = standing older ++ if h.closes = 0 then [h.queue] else [] := by
  by_cases never : h.closes = 0
  · simp [standing, isStanding, never]
  · simp [standing, isStanding, never]

theorem tidy_nil : Tidy [] := ⟨fun _ listed => absurd listed List.not_mem_nil, .nil⟩

variable {handles older : List Handle} {h : Handle} {queue : String}

theorem Tidy.tail (tidy : Tidy (h :: older)) : Tidy older :=
  ⟨fun h' listed => tidy.closes_le h' (List.mem_cons_of_mem _ listed),
    (List.pairwise_cons.mp tidy.replaced).2⟩

theorem Tidy.newest_stands_alone (tidy : Tidy (h :: older)) : h.queue ∉ standing older := by
  intro stands
  obtain ⟨h', listed, named, never⟩ := mem_standing.mp stands
  have once := (List.pairwise_cons.mp tidy.replaced).1 h' listed named.symm
  omega

/-- A queue has at most one handle that stands. -/
theorem Tidy.nodup_standing (tidy : Tidy handles) : (standing handles).Nodup := by
  induction handles with
  | nil => exact List.nodup_nil
  | cons h older ih =>
    rw [standing_cons]
    by_cases never : h.closes = 0
    · rw [if_pos never, List.nodup_append]
      refine ⟨ih tidy.tail, List.pairwise_singleton _ _, ?_⟩
      intro queue stands other newest same
      rw [List.mem_singleton.mp newest] at same
      exact tidy.newest_stands_alone (same ▸ stands)
    · rw [if_neg never, List.append_nil]
      exact ih tidy.tail

/-- A handle is opened for a queue that has none standing. -/
theorem Tidy.open (tidy : Tidy handles) (none : queue ∉ standing handles) :
    Tidy (⟨queue, 0⟩ :: handles) := by
  refine ⟨?_, List.pairwise_cons.mpr ⟨?_, tidy.replaced⟩⟩
  · intro h listed
    rcases List.mem_cons.mp listed with rfl | listed
    · exact Nat.zero_le 1
    · exact tidy.closes_le h listed
  · intro h listed same
    have le := tidy.closes_le h listed
    have closed : h.closes ≠ 0 := fun never => none (mem_standing.mpr ⟨h, listed, same.symm, never⟩)
    omega

theorem mem_closeNewest (listed : h ∈ closeNewest queue handles) :
    h ∈ handles ∨ h.queue = queue := by
  induction handles with
  | nil => exact absurd listed List.not_mem_nil
  | cons first older ih =>
    by_cases named : first.queue = queue
    · rw [closeNewest, if_pos named] at listed
      rcases List.mem_cons.mp listed with rfl | listed
      · exact Or.inr named
      · exact Or.inl (List.mem_cons_of_mem _ listed)
    · rw [closeNewest, if_neg named] at listed
      rcases List.mem_cons.mp listed with rfl | listed
      · exact Or.inl List.mem_cons_self
      · exact (ih listed).imp_left (List.mem_cons_of_mem _)

/-- Closing a handle that stands is closing it for the first time, and leaves the others. -/
theorem Tidy.close (tidy : Tidy handles) (stands : queue ∈ standing handles) :
    Tidy (closeNewest queue handles) ∧
      standing (closeNewest queue handles) = (standing handles).erase queue := by
  induction handles with
  | nil => exact absurd stands List.not_mem_nil
  | cons h older ih =>
    obtain ⟨first, rest⟩ := List.pairwise_cons.mp tidy.replaced
    by_cases named : h.queue = queue
    · have gone : queue ∉ standing older := named ▸ tidy.newest_stands_alone
      have never : h.closes = 0 := by
        by_contra closed
        rw [standing_cons, if_neg closed, List.append_nil] at stands
        exact gone stands
      rw [closeNewest, if_pos named]
      refine ⟨⟨?_, List.pairwise_cons.mpr ⟨first, rest⟩⟩, ?_⟩
      · intro h' listed
        rcases List.mem_cons.mp listed with rfl | listed
        · exact Nat.le_of_eq (congrArg (· + 1) never)
        · exact tidy.tail.closes_le h' listed
      · rw [standing_cons, standing_cons, if_pos never, named, List.erase_append_right _ gone]
        simp
    · have below : queue ∈ standing older := by
        rw [standing_cons, List.mem_append] at stands
        refine stands.resolve_right fun newest => ?_
        by_cases never : h.closes = 0
        · rw [if_pos never] at newest
          exact named (List.mem_singleton.mp newest).symm
        · rw [if_neg never] at newest
          exact absurd newest List.not_mem_nil
      obtain ⟨tidy', standing'⟩ := ih tidy.tail below
      rw [closeNewest, if_neg named]
      refine ⟨⟨?_, List.pairwise_cons.mpr ⟨?_, tidy'.replaced⟩⟩, ?_⟩
      · intro h' listed
        rcases List.mem_cons.mp listed with rfl | listed
        · exact tidy.closes_le h' List.mem_cons_self
        · exact tidy'.closes_le h' listed
      · intro h' listed same
        rcases mem_closeNewest listed with old | closed
        · exact first h' old same
        · exact absurd (same.trans closed) named
      · rw [standing_cons, standing_cons, standing', List.erase_append_left _ below]

end Handle

/-- The call opens or closes a handle. -/
def BrokerCall.isOfHandles : BrokerCall → Bool
  | .openHandle _ _ => true
  | .close _ => true
  | _ => false

theorem Handle.enter_of_not_isOfHandles {c : BrokerCall} (other : c.isOfHandles = false)
    (handles : List Handle) (passed : Bool) : Handle.enter handles ⟨c, passed⟩ = handles := by
  cases c <;> first | rfl | cases other

namespace Handle

variable {handles : List Handle} {d : Dealing}

theorem enter_ne_nil (some : handles ≠ []) : enter handles d ≠ [] := by
  obtain ⟨first, older, rfl⟩ := List.exists_cons_of_ne_nil some
  obtain ⟨c, passed⟩ := d
  cases c with
  | openHandle queue keyPrefix => cases passed <;> exact List.cons_ne_nil _ _
  | close queue =>
    by_cases named : first.queue = queue
    · simp [enter, closeNewest, named]
    · simp [enter, closeNewest, named]
  | _ => exact some

/-- A dealing leaves a handle as it was unless it has opened or closed it. -/
theorem mem_enter {h : Handle} (listed : h ∈ enter handles d) :
    h ∈ handles ∨ h.closes = 0 ∨ ∃ queue, d.call = .close queue := by
  obtain ⟨c, passed⟩ := d
  cases c with
  | openHandle queue keyPrefix =>
    cases passed with
    | false => exact Or.inl listed
    | true =>
      rcases List.mem_cons.mp listed with rfl | listed
      · exact Or.inr (Or.inl rfl)
      · exact Or.inl listed
  | close queue => exact Or.inr (Or.inr ⟨queue, rfl⟩)
  | _ => exact Or.inl listed

end Handle

namespace Broker

/-- All handles that a trail has opened, the newest first. -/
def handles (b : Broker β) (w : β) (calls : List BrokerCall) : List Handle :=
  (b.dealings w calls).foldl Handle.enter []

theorem handles_concat (b : Broker β) (w : β) (calls : List BrokerCall) (call : BrokerCall) :
    b.handles w (calls ++ [call]) =
      Handle.enter (b.handles w calls) ⟨call, b.passes (b.after w calls) call⟩ := by
  rw [handles, handles, dealings_append, List.foldl_append]
  rfl

variable {b : Broker β} {w : β} {calls : List BrokerCall}

theorem handles_append_of_others {others : List BrokerCall}
    (other : ∀ c ∈ others, c.isOfHandles = false) :
    b.handles w (calls ++ others) = b.handles w calls := by
  induction others using List.reverseRecOn with
  | nil => rw [List.append_nil]
  | append_singleton earlier c ih =>
    rw [← List.append_assoc, handles_concat,
      Handle.enter_of_not_isOfHandles (other c (by simp))]
    exact ih fun c listed => other c (List.mem_append_left _ listed)

theorem handles_of_others (other : ∀ c ∈ calls, c.isOfHandles = false) :
    b.handles w calls = [] := by
  have unmoved : b.handles w ([] ++ calls) = b.handles w [] := handles_append_of_others other
  exact unmoved

/-- If the first call to open a handle is the last one made, the ledger has a handle exactly if
everything has gone through. -/
theorem handles_upToFailure {queue : String} {keyPrefix : Option String}
    (other : ∀ c ∈ calls, c.isOfHandles = false) :
    b.handles w (b.upToFailure w (calls ++ [.openHandle queue keyPrefix])) =
      if b.allPass w (calls ++ [.openHandle queue keyPrefix]) then [⟨queue, 0⟩] else [] := by
  rw [upToFailure_append, allPass_append, allPass_singleton, upToFailure_singleton]
  cases b.allPass w calls with
  | false =>
    exact handles_of_others fun c made => other c (mem_of_mem_upToFailure made)
  | true =>
    rw [if_pos rfl, handles_concat, handles_of_others other]
    cases b.passes (b.after w calls) (.openHandle queue keyPrefix) <;> rfl

/-- A handle once opened stays in the ledger. -/
theorem handles_append_ne_nil (later : List BrokerCall) (some : b.handles w calls ≠ []) :
    b.handles w (calls ++ later) ≠ [] := by
  induction later using List.reverseRecOn with
  | nil => rwa [List.append_nil]
  | append_singleton earlier c ih =>
    rw [← List.append_assoc, handles_concat]
    exact Handle.enter_ne_nil ih

/-- Handles that nobody closes stand. -/
theorem closes_of_never_closed (never : ∀ queue, .close queue ∉ calls) :
    ∀ h ∈ b.handles w calls, h.closes = 0 := by
  induction calls using List.reverseRecOn with
  | nil => exact fun h listed => absurd listed List.not_mem_nil
  | append_singleton earlier c ih =>
    have before := ih fun queue listed => never queue (List.mem_append_left _ listed)
    intro h listed
    rw [handles_concat] at listed
    rcases Handle.mem_enter listed with earlier | opened | ⟨queue, closed⟩
    · exact before h earlier
    · exact opened
    · have last : .close queue ∈ [c] := List.mem_singleton.mpr closed.symm
      exact absurd (List.mem_append_right earlier last) (never queue)

end Broker

end JobWatch
