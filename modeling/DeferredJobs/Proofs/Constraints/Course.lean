import DeferredJobs.Proofs.Constraints
import DeferredJobs.Proofs.Constraints.Progress
import Mathlib.Data.List.Destutter
import Mathlib.Data.List.Sort

/-!
# The course of a job

While time passes and the network stays the same, a job that is not cancelled is told one thing
after the other, and never comes back to what it was told before.

* **Stages** (`Constraints.Decides.reaches_iff`): the conditions that hold are those of the stages
  up to the one that the job is at, so that its stage never falls.
* **The course** (`Constraints.course`): the four things that a job may be told on a given network,
  by rising stage. There are six stages, but no network lets a job wait both for a network and for
  an unmetered one, and a deadline either ends the job or lifts what holds it back.
* **Changes** (`Constraints.destutter_sublist_course`): what a job is told in the course of time,
  without repetitions, is some of the course in order.
-/

namespace DeferredJobs

/-! ### Rising stages -/

/-- `e.Before e'`: who is told `e` has not come as far as who is told `e'`. -/
def Eligibility.Before (e e' : Eligibility) : Prop :=
  ∃ i j, e.stage? = some i ∧ e'.stage? = some j ∧ i < j

namespace Eligibility.Before

variable {e e' e'' : Eligibility}

theorem trans (h : e.Before e') (h' : e'.Before e'') : e.Before e'' := by
  obtain ⟨i, j, at_i, at_j, lt⟩ := h
  obtain ⟨j', k, at_j', at_k, lt'⟩ := h'
  obtain rfl : j = j' := Option.some.inj (at_j.symm.trans at_j')
  exact ⟨i, k, at_i, at_k, Nat.lt_trans lt lt'⟩

theorem irrefl (e : Eligibility) : ¬e.Before e := by
  rintro ⟨i, j, at_i, at_j, lt⟩
  obtain rfl : i = j := Option.some.inj (at_i.symm.trans at_j)
  exact Nat.lt_irrefl i lt

instance : IsTrans Eligibility Before := ⟨fun _ _ _ => trans⟩

instance : Std.Irrefl Before := ⟨irrefl⟩

instance : Std.Antisymm Before := ⟨fun e _ h h' => absurd (h.trans h') (irrefl e)⟩

end Eligibility.Before

/-- A list that moves on or stays where it is moves on whenever it changes. -/
theorem pairwise_destutter {l : List Eligibility}
    (moves : l.Pairwise fun e e' => e = e' ∨ e.Before e') :
    (l.destutter (· ≠ ·)).Pairwise Eligibility.Before := by
  have changes := List.isChain_iff_getElem.mp (List.isChain_destutter (· ≠ ·) l)
  have kept := List.isChain_iff_getElem.mp
    (moves.sublist (List.destutter_sublist (· ≠ ·) l)).isChain
  refine List.isChain_iff_pairwise.mp (List.isChain_iff_getElem.mpr fun i below => ?_)
  exact (kept i below).resolve_left (changes i below)

/-- What moves on within a list that does so, too, goes through some of it in order. -/
theorem destutter_sublist_of_moves {l course : List Eligibility}
    (moves : l.Pairwise fun e e' => e = e' ∨ e.Before e') (among : ∀ e ∈ l, e ∈ course)
    (rises : course.Pairwise Eligibility.Before) : (l.destutter (· ≠ ·)).Sublist course := by
  have increasing := pairwise_destutter moves
  have subset : l.destutter (· ≠ ·) ⊆ course :=
    fun e member => among e ((List.destutter_sublist _ l).subset member)
  exact List.sublist_of_subperm_of_pairwise (List.subperm_of_subset increasing.nodup subset)
    increasing rises

namespace Constraints

variable {c : Constraints} {t t' : Nanos} {network : Connectivity} {e e' : Eligibility}

/-- The conditions that hold are those of the stages up to the one that the job is at. -/
theorem Decides.reaches_iff (h : c.Decides t network e) {i n : Nat} (at_i : e.stage? = some i) :
    c.Reaches t network n ↔ n ≤ i := by
  obtain ⟨j, at_j, reached, not_beyond⟩ := h.reaches_stage
  obtain rfl : i = j := Option.some.inj (at_i.symm.trans at_j)
  exact ⟨fun reaches => Nat.le_of_not_lt fun beyond => not_beyond (reaches.of_le beyond),
    reached.of_le⟩

/-- The stage of a job never falls. -/
theorem Decides.stage_le (h : c.Decides t network e) (h' : c.Decides t' network e')
    (later : t ≤ t') {i j : Nat} (at_i : e.stage? = some i) (at_j : e'.stage? = some j) :
    i ≤ j :=
  (h'.reaches_iff at_j).mp <| ((h.reaches_iff at_i).mpr (Nat.le_refl i)).mono later (Nat.le_refl _)

/-! ### The course -/

/-- What a job may be told on a network, by rising stage. -/
def course (c : Constraints) (network : Connectivity) : List Eligibility :=
  [.delayed (c.delayUntil.instant?.getD Int64.maxValue),
    if network = .disconnected then .awaitingNetwork else .awaitingUnmetered] ++
  if c.cancelOnDeadline then [.runnable, .hitDeadline] else [.forcedByDeadline, .runnable]

theorem length_course (c : Constraints) (network : Connectivity) :
    (c.course network).length = 4 := by
  rw [course]
  cases c.cancelOnDeadline <;> rfl

/-- A course goes through rising stages. -/
theorem exists_stages (c : Constraints) (network : Connectivity) :
    ∃ stages : List Nat, (c.course network).map Eligibility.stage? = stages.map some ∧
      stages.Pairwise (· < ·) := by
  refine ⟨[0, if network = .disconnected then 1 else 2] ++
    if c.cancelOnDeadline then [4, 5] else [3, 4], ?_, ?_⟩
  · rw [course]
    cases c.cancelOnDeadline <;> cases network <;> rfl
  · cases c.cancelOnDeadline <;> cases network <;> decide

theorem pairwise_course (c : Constraints) (network : Connectivity) :
    (c.course network).Pairwise Eligibility.Before := by
  obtain ⟨stages, eq, rises⟩ := c.exists_stages network
  have rising : ((c.course network).map Eligibility.stage?).Pairwise
      fun a b => ∃ i j, a = some i ∧ b = some j ∧ i < j := by
    rw [eq]
    exact List.pairwise_map.mpr (rises.imp fun lt => ⟨_, _, rfl, rfl, lt⟩)
  rw [List.pairwise_map] at rising
  exact rising

/-- What belongs to a course is told apart by its stage. -/
theorem eq_of_stage_eq (h : e ∈ c.course network) (h' : e' ∈ c.course network)
    (same : e.stage? = e'.stage?) : e = e' := by
  obtain ⟨stages, eq, rises⟩ := c.exists_stages network
  have distinct : ((c.course network).map Eligibility.stage?).Nodup :=
    eq ▸ rises.nodup.map (Option.some_injective Nat)
  exact List.inj_on_of_nodup_map distinct h h' same

/-- What a job is told belongs to its course. -/
theorem evaluate_mem_course (covers : c.windows.Covers) (t : Nanos) (network : Connectivity) :
    c.evaluate false t network ∈ c.course network := by
  obtain ⟨e, decides⟩ := c.exists_decides t network
  have told : c.evaluate false t network = e := decides.evaluate_eq
  rw [told, course]
  cases decides with
  | hitDeadline expired ends => simp [ends]
  | forcedByDeadline expired lifts blocked => simp [lifts]
  | runnable lives unblocked => cases c.cancelOnDeadline <;> simp
  | delayed early lasts => simp [(delayLasts_iff.mp lasts).2]
  | awaitingNetwork early delay lacks =>
    have disconnected : network = .disconnected := not_not.mp (not_or.mp lacks).2
    simp [disconnected]
  | awaitingUnmetered early delay met lacks =>
    have metered : network = .metered := evaluate_eq_awaitingUnmetered covers told
    simp [metered]

/-- From one instant to a later one, a job is told the same or what comes later. -/
theorem evaluate_eq_or_before (covers : c.windows.Covers) (later : t ≤ t') :
    c.evaluate false t network = c.evaluate false t' network ∨
      (c.evaluate false t network).Before (c.evaluate false t' network) := by
  have decides (t : Nanos) : c.Decides t network (c.evaluate false t network) :=
    evaluate_eq_iff.mp rfl
  obtain ⟨i, at_i, -⟩ := (decides t).reaches_stage
  obtain ⟨j, at_j, -⟩ := (decides t').reaches_stage
  obtain lt | rfl := Nat.lt_or_eq_of_le ((decides t).stage_le (decides t') later at_i at_j)
  · exact .inr ⟨i, j, at_i, at_j, lt⟩
  · exact .inl (eq_of_stage_eq (evaluate_mem_course covers t network)
      (evaluate_mem_course covers t' network) (at_i.trans at_j.symm))

/-- **Changes follow the course.** While time passes, what a job is told, without repetitions, is
some of its course in order. -/
theorem destutter_sublist_course (covers : c.windows.Covers) (network : Connectivity)
    {readings : List Nanos} (later : readings.Pairwise (· ≤ ·)) :
    ((readings.map (c.evaluate false · network)).destutter (· ≠ ·)).Sublist (c.course network) := by
  refine destutter_sublist_of_moves ?_ ?_ (c.pairwise_course network)
  · exact List.pairwise_map.mpr (later.imp (evaluate_eq_or_before covers))
  · intro e member
    obtain ⟨t, -, rfl⟩ := List.mem_map.mp member
    exact evaluate_mem_course covers t network

end Constraints

end DeferredJobs
