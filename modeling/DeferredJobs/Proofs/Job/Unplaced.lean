import DeferredJobs.Proofs.Job.Order

/-!
# Jobs without a place

A job that has no place in the queue is to be dispatched after all that have one, and keys that tie
are to be equal. A key without a place is compared as if it had the last place there is, which comes
to the same unless another key has that very place.

* **Ties** (`OrderingKey.place_eq_iff`): keys may have the same place without having been given
  the same one if one has none and the other has the last one (`OrderingKey.Confusable`).
* **Who comes last** (`OrderingKey.compare_of_unplaced`): against a key with the last place, a key
  without one is no longer behind, and the ids decide.

`OrderingKey.unplaced_last_iff` says that there is no other exception, and
`OrderingKey.unplaced_ties_with_last` that there is this one.
-/

namespace DeferredJobs.OrderingKey

variable {a b : OrderingKey} {n : Int64}

/-- One of the keys has no place, and the other one has the last place there is. -/
def Confusable (a b : OrderingKey) : Prop :=
  a.insertionOrder = none ∧ b.insertionOrder = some Int64.maxValue ∨
    a.insertionOrder = some Int64.maxValue ∧ b.insertionOrder = none

/-! ### Ties -/

theorem place_eq_iff :
    a.place = b.place ↔ a.insertionOrder = b.insertionOrder ∨ Confusable a b := by
  rw [place, place, Confusable]
  cases a.insertionOrder with
  | none =>
    cases b.insertionOrder with
    | none => simp
    | some n => simp [eq_comm]
  | some m =>
    cases b.insertionOrder with
    | none => simp
    | some n => simp

/-- Keys tie if they are equal, or if nothing but the place tells them apart and this does not
show. -/
theorem compare_eq_eq_iff_or : compare a b = .eq ↔
    a = b ∨ a.priority = b.priority ∧ a.createdAt = b.createdAt ∧ Confusable a b ∧ a.id = b.id := by
  have equal : a = b ↔ a.priority = b.priority ∧ a.createdAt = b.createdAt ∧
      a.insertionOrder = b.insertionOrder ∧ a.id = b.id := by
    cases a
    cases b
    exact OrderingKey.mk.injEq .. |>.to_iff
  rw [compare_eq_eq_iff, place_eq_iff, equal]
  tauto

/-- Keys that are told apart by their places only are not equal. -/
theorem Confusable.ne (h : Confusable a b) : a ≠ b := by
  rintro rfl
  obtain ⟨unplaced, placed⟩ | ⟨placed, unplaced⟩ := h <;>
    exact absurd (unplaced.symm.trans placed) nofun

/-! ### Who comes last -/

/-- Of two keys that differ by place and id only, the one without a place comes last, unless the
other one has the last place. -/
theorem compare_of_unplaced (priority : a.priority = b.priority)
    (createdAt : a.createdAt = b.createdAt) (unplaced : a.insertionOrder = none)
    (placed : b.insertionOrder = some n) :
    compare a b = if n = Int64.maxValue then compare a.id b.id else .gt := by
  have place_a : a.place = Int64.maxValue := by rw [place, unplaced, Option.getD_none]
  have place_b : b.place = n := by rw [place, placed, Option.getD_some]
  have alike : compare b.priority a.priority = .eq ∧ compare a.createdAt b.createdAt = .eq :=
    ⟨Std.LawfulEqOrd.compare_eq_iff_eq.mpr priority.symm,
      Std.LawfulEqOrd.compare_eq_iff_eq.mpr createdAt⟩
  rw [compare_eq, alike.1, alike.2, place_a, place_b, Ordering.eq_then, Ordering.eq_then]
  split
  · next last =>
    rw [Std.LawfulEqOrd.compare_eq_iff_eq.mpr last.symm, Ordering.eq_then]
  · next earlier =>
    have lt : n < Int64.maxValue := Std.lt_of_le_of_ne n.le_maxValue earlier
    rw [Std.compare_eq_gt.mpr lt, Ordering.gt_then]

/-- **No place and the last place** are taken for each other, and this is the one exception to two
rules. Keys tie just if they are equal, except for keys that differ in this point only. And of two
keys with the same priority and age, of which one has no place, this one comes last, except where
the other one has the last place: then their ids decide. -/
theorem unplaced_last_iff (a b : OrderingKey) :
    ((compare a b = .eq ↔ a = b) ↔
      ¬(a.priority = b.priority ∧ a.createdAt = b.createdAt ∧ Confusable a b ∧ a.id = b.id)) ∧
    ∀ n, a.priority = b.priority → a.createdAt = b.createdAt → a.insertionOrder = none →
      b.insertionOrder = some n →
      (compare a b = .gt ↔ n ≠ Int64.maxValue ∨ utf8Bytes b.id < utf8Bytes a.id) := by
  refine ⟨?_, fun n priority createdAt unplaced placed => ?_⟩
  · rw [compare_eq_eq_iff_or]
    constructor
    · rintro faithful ⟨priority, createdAt, confusable, id⟩
      exact confusable.ne (faithful.mp (.inr ⟨priority, createdAt, confusable, id⟩))
    · intro clear
      exact or_iff_left clear
  · have ids : compare a.id b.id = .gt ↔ utf8Bytes b.id < utf8Bytes a.id := by
      rw [Std.OrientedCmp.gt_iff_lt, utf8Bytes_lt_iff]
      exact compareOfLessAndEq_eq_lt
    rw [compare_of_unplaced priority createdAt unplaced placed, ← ids]
    split
    · next last => simp [last]
    · next earlier => simp [earlier]

/-- A key with an ordinary place comes before one without, although its id is larger. -/
theorem unplaced_last_iff_seventh :
    let a : OrderingKey := ⟨3, 10, none, "a"⟩
    let b : OrderingKey := ⟨3, 10, some 7, "b"⟩
    a.priority = b.priority ∧ a.createdAt = b.createdAt ∧ a.insertionOrder = none ∧
      b.insertionOrder = some 7 ∧ compare a b = .gt ∧ (compare a b = .eq ↔ a = b) := by
  intro a b
  obtain ⟨ties, last⟩ := unplaced_last_iff a b
  exact ⟨rfl, rfl, rfl, rfl, (last 7 rfl rfl rfl rfl).mpr (.inl (by decide)),
    ties.mpr fun confused => absurd confused.2.2.2 (by decide)⟩

/-- A key that has the last place comes after one without a place whose id is smaller, and it ties
with a different one without a place. -/
theorem unplaced_ties_with_last :
    let unplaced (id : String) : OrderingKey := ⟨3, 10, none, id⟩
    let last : OrderingKey := ⟨3, 10, some Int64.maxValue, "c"⟩
    compare (unplaced "b") last = .lt ∧
      compare last (unplaced "c") = .eq ∧ last ≠ unplaced "c" := by
  decide

end DeferredJobs.OrderingKey
