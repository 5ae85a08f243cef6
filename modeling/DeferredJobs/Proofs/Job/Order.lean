import DeferredJobs.Job.Order
import DeferredJobs.Proofs.Job.Storage
import DeferredJobs.Proofs.Text.Bytes
import Mathlib.Data.List.Nodup

/-!
# One dispatch order

Keys are compared by four things in turn, the priority the other way round, and a job without a
place as if it had the last one.

* **Keys** (`OrderingKey.compare_eq_lt_iff`): the comparison is a linear order but for keys with the
  same id, and tells what comes first.
* **Lists** (`eq_sortByKey_iff`): where ids differ, there is one way only to put a list in order,
  and it does not matter how the list was arranged before.
* **Records** (`Job.map_toRecord_dispatched`): jobs are dispatched as their records are, so storing
  and restoring them changes nothing.

`Job.dispatch_determined` puts this together.
-/

namespace DeferredJobs

namespace OrderingKey

variable {a b : OrderingKey}

/-! ### Keys -/

/-- The comparison of priorities is turned around. -/
instance : Std.TransCmp fun a b : OrderingKey => compareOn priority b a := Std.TransCmp.opposite

instance : Std.TransOrd OrderingKey :=
  inferInstanceAs <| Std.TransCmp <|
    compareLex (fun a b : OrderingKey => compareOn priority b a)
      (compareLex (compareOn createdAt) (compareLex (compareOn place) (compareOn id)))

theorem compare_eq (a b : OrderingKey) : compare a b =
    (compare b.priority a.priority).then ((compare a.createdAt b.createdAt).then
      ((compare a.place b.place).then (compare a.id b.id))) := rfl

/-- **What comes first**: the higher priority, then the older job, then the one with the smaller
place, and last the one with the smaller id, by its bytes. -/
theorem compare_eq_lt_iff :
    compare a b = .lt ↔
      b.priority < a.priority ∨ b.priority = a.priority ∧
        (a.createdAt < b.createdAt ∨ a.createdAt = b.createdAt ∧
          (a.place < b.place ∨ a.place = b.place ∧ utf8Bytes a.id < utf8Bytes b.id)) := by
  have ids : compare a.id b.id = .lt ↔ utf8Bytes a.id < utf8Bytes b.id :=
    compareOfLessAndEq_eq_lt.trans utf8Bytes_lt_iff.symm
  rw [compare_eq]
  simp only [Ordering.then_eq_lt, Std.compare_eq_lt (α := Int32), Std.compare_eq_lt (α := Int64),
    Std.LawfulEqOrd.compare_eq_iff_eq, ids]

/-- Keys tie if they agree in all that is compared. -/
theorem compare_eq_eq_iff :
    compare a b = .eq ↔ a.priority = b.priority ∧ a.createdAt = b.createdAt ∧
      a.place = b.place ∧ a.id = b.id := by
  simp only [compare_eq, Ordering.then_eq_eq, Std.LawfulEqOrd.compare_eq_iff_eq]
  exact and_congr_left' eq_comm

theorem id_eq_of_compare_eq (h : compare a b = .eq) : a.id = b.id :=
  (compare_eq_eq_iff.mp h).2.2.2

/-- With different ids, what does not come later comes first. -/
theorem compare_eq_lt_of_isLE (h : (compare a b).isLE) (distinct : a.id ≠ b.id) :
    compare a b = .lt := by
  cases order : compare a b with
  | lt => rfl
  | eq => exact absurd (id_eq_of_compare_eq order) distinct
  | gt => rw [order] at h; contradiction

/-- The comparison answers alike along a chain of keys. -/
theorem compare_trans {c : OrderingKey} {o : Ordering} (hab : compare a b = o)
    (hbc : compare b c = o) : compare a c = o := by
  cases o with
  | lt => exact Std.TransCmp.lt_trans hab hbc
  | eq => exact Std.TransCmp.eq_trans hab hbc
  | gt => exact Std.TransCmp.gt_trans hab hbc

end OrderingKey

/-! ### Lists -/

section Lists

variable {α β : Type} {key : α → OrderingKey} {xs ys : List α}

theorem perm_sortByKey (key : α → OrderingKey) (xs : List α) : (sortByKey key xs).Perm xs :=
  List.mergeSort_perm ..

theorem pairwise_sortByKey (key : α → OrderingKey) (xs : List α) :
    (sortByKey key xs).Pairwise fun x y => (compare (key x) (key y)).isLE := by
  refine List.pairwise_mergeSort (fun x y z => Std.TransCmp.isLE_trans) (fun x y => ?_) xs
  rw [Std.OrientedOrd.eq_swap (a := key y)]
  cases compare (key x) (key y) <;> rfl

/-- Sorting goes by the keys alone. -/
theorem map_sortByKey (f : α → β) (key : β → OrderingKey) (xs : List α) :
    (sortByKey (fun x => key (f x)) xs).map f = sortByKey key (xs.map f) :=
  List.map_mergeSort fun _ _ _ _ => rfl

/-- **One order only.** Where no two items have the same id, the sorted list is the only arrangement
in which each item comes before those that follow it, however the items are arranged at first. -/
theorem eq_sortByKey_iff (distinct : (xs.map fun x => (key x).id).Nodup) {zs : List α}
    (arranged : ys.Perm xs) :
    zs = sortByKey key ys ↔
      zs.Perm xs ∧ zs.Pairwise fun x y => compare (key x) (key y) = .lt := by
  have perm : (sortByKey key ys).Perm xs := (perm_sortByKey key ys).trans arranged
  have sorted : (sortByKey key ys).Pairwise fun x y => compare (key x) (key y) = .lt := by
    have apart : (sortByKey key ys).Pairwise fun x y => (key x).id ≠ (key y).id :=
      List.pairwise_map.mp ((perm.map _).nodup_iff.mpr distinct)
    exact (pairwise_sortByKey key ys).imp₂ (fun x y => OrderingKey.compare_eq_lt_of_isLE) apart
  constructor
  · rintro rfl
    exact ⟨perm, sorted⟩
  · rintro ⟨arranged, ascending⟩
    refine List.Perm.eq_of_pairwise (fun x y _ _ before after => ?_) ascending sorted
      (arranged.trans perm.symm)
    -- no item comes before another one and after it
    rw [Std.OrientedOrd.eq_swap, after] at before
    contradiction

end Lists

namespace Job

variable {ω ω' : Type}

/-! ### Jobs -/

/-- The jobs of a list in the order in which they are dispatched. -/
def dispatched (jobs : List (Job ω)) : List (Job ω) := sortByKey (·.orderingKey) jobs

/-- Jobs are dispatched as their records are. -/
theorem map_toRecord_dispatched (jobs : List (Job ω)) :
    (dispatched jobs).map toRecord = sortByKey (·.orderingKey) (jobs.map toRecord) :=
  map_sortByKey toRecord (·.orderingKey) jobs

variable [Work ω']

/-- Restores a list of jobs from their records, each with a work item. -/
def restoreAll (work : Job ω → ω') (jobs : List (Job ω)) : Except BuildError (List (Job ω')) :=
  jobs.mapM fun job => restore job.toRecord (work job)

theorem exists_restoreAll (work : Job ω → ω') {jobs : List (Job ω)}
    (sound : ∀ job ∈ jobs, job.Sound) :
    ∃ restored, restoreAll work jobs = .ok restored ∧
      restored.map toRecord = jobs.map toRecord := by
  induction jobs with
  | nil => exact ⟨[], rfl, rfl⟩
  | cons job jobs ih =>
    obtain ⟨soundJob, soundJobs⟩ := List.forall_mem_cons.mp sound
    obtain ⟨d, restored, record⟩ := soundJob.restore_toRecord (work job)
    obtain ⟨ds, restoredAll, records⟩ := ih soundJobs
    refine ⟨d :: ds, ?_, ?_⟩
    · rw [restoreAll] at restoredAll
      rw [restoreAll, List.mapM_cons, restored, restoredAll]
      rfl
    · rw [List.map_cons, List.map_cons, record, records]

variable [Work ω]

/-- **One dispatch order.** Keys are ordered: a key ties with itself, swapping the arguments
reverses the answer, and the answers are transitive. Every two keys can be compared, keys with
different ids never tie, and a job comes first by a higher priority, else by an earlier creation,
else by a smaller place, where the job that has none counts as the last, else by the bytes of its
id. So jobs with different ids have one dispatch order, however they are listed: the one arrangement
in which each comes before those that follow it. If the jobs were built or restored once, whatever
has been done with them since, all of them can be stored and restored, with any work items, and
their records are then in the same dispatch order, again however they are listed. -/
theorem dispatch_determined :
    (∀ a b c : OrderingKey,
      compare a a = .eq ∧
      compare b a = (compare a b).swap ∧
      (∀ o, compare a b = o → compare b c = o → compare a c = o) ∧
      ((compare a b).isLE → (compare b c).isLE → (compare a c).isLE) ∧
      a.partialCompare b = some (compare a b) ∧
      (a.id ≠ b.id → compare a b ≠ .eq) ∧
      let place (k : OrderingKey) := k.insertionOrder.getD Int64.maxValue
      (compare a b = .lt ↔
        b.priority < a.priority ∨ b.priority = a.priority ∧
          (a.createdAt < b.createdAt ∨ a.createdAt = b.createdAt ∧
            (place a < place b ∨ place a = place b ∧ utf8Bytes a.id < utf8Bytes b.id)))) ∧
    ∀ jobs : List (Job ω), (jobs.map (·.id)).Nodup →
      (∀ listed, listed.Perm jobs →
        dispatched listed = dispatched jobs ∧
        ∀ order, order = dispatched listed ↔
          order.Perm jobs ∧
            order.Pairwise fun a b => compare a.orderingKey b.orderingKey = .lt) ∧
      ((∀ job ∈ jobs, job.Reachable) →
        ∀ work : Job ω → ω', ∃ restored, restoreAll work jobs = .ok restored ∧
          ∀ listed, listed.Perm restored →
            (dispatched listed).map toRecord = (dispatched jobs).map toRecord) := by
  refine ⟨fun a b c => ⟨Std.ReflCmp.compare_self, Std.OrientedOrd.eq_swap,
    fun o => OrderingKey.compare_trans, Std.TransCmp.isLE_trans, rfl,
    mt OrderingKey.id_eq_of_compare_eq, OrderingKey.compare_eq_lt_iff⟩,
    fun jobs distinct => ⟨fun listed arranged => ⟨?_, fun order => ?_⟩,
      fun reachable work => ?_⟩⟩
  · exact (eq_sortByKey_iff distinct (.refl jobs)).mpr
      ((eq_sortByKey_iff distinct arranged).mp rfl)
  · exact eq_sortByKey_iff distinct arranged
  · obtain ⟨restored, restoredAll, records⟩ :=
      exists_restoreAll work fun job member => (reachable job member).sound
    refine ⟨restored, restoredAll, fun listed arranged => ?_⟩
    have perm : (listed.map toRecord).Perm (jobs.map toRecord) := records ▸ arranged.map toRecord
    have distinct : ((jobs.map toRecord).map fun r => r.orderingKey.id).Nodup := by
      rw [List.map_map]
      exact distinct
    rw [map_toRecord_dispatched, map_toRecord_dispatched]
    exact (eq_sortByKey_iff distinct (.refl _)).mpr ((eq_sortByKey_iff distinct perm).mp rfl)

/-- Of three jobs that differ by place and id only, the one with a place comes first. The others
follow by id, also once all have been stored and restored. -/
theorem dispatch_determined_placed_first :
    let record (id : String) (insertionOrder : Option Int64) : Record :=
      { id, persistent := false, priority := 0, groupId := none, runCount := 0, createdAt := 10
        delayUntil := .never, insertionOrder, session := ⟨1⟩, windows := ⟨.never, .never⟩
        deadline := .forever, cancelOnDeadline := false, tags := none, retry := none }
    let work : ScriptedWork := ⟨⟨[], {}, [], 3⟩⟩
    ∃ a b c : Job ScriptedWork,
      restore (record "a" none) work = .ok a ∧
      restore (record "b" (some 7)) work = .ok b ∧
      restore (record "c" none) work = .ok c ∧
      dispatched [c, a, b] = [b, a, c] ∧
      ∃ again, restoreAll (fun _ => work) [b, a, c] = .ok again ∧
        (dispatched again.reverse).map toRecord = [b, a, c].map toRecord := by
  intro record work
  have restores (id : String) (insertionOrder : Option Int64) (named : id ≠ "") :
      ∃ d : Job ScriptedWork, restore (record id insertionOrder) work = .ok d ∧
        d.orderingKey = ⟨0, 10, insertionOrder, id⟩ :=
    ⟨_, restore_eq_ok_iff.mpr ⟨mt And.right Bool.false_ne_true, named, rfl⟩, rfl⟩
  obtain ⟨a, restored_a, key_a⟩ := restores "a" none (by decide)
  obtain ⟨b, restored_b, key_b⟩ := restores "b" (some 7) (by decide)
  obtain ⟨c, restored_c, key_c⟩ := restores "c" none (by decide)
  have keys : [b, a, c].map (·.orderingKey) =
      [⟨0, 10, some 7, "b"⟩, ⟨0, 10, none, "a"⟩, ⟨0, 10, none, "c"⟩] := by
    simp only [List.map_cons, List.map_nil, key_a, key_b, key_c]
  have distinct : ([b, a, c].map (·.id)).Nodup := by
    have ids : [b, a, c].map (·.id) = ["b", "a", "c"] :=
      congrArg (List.map OrderingKey.id) keys
    rw [ids]
    decide
  have ascending : [b, a, c].Pairwise fun x y => compare x.orderingKey y.orderingKey = .lt := by
    refine List.pairwise_map.mp (?_ : ([b, a, c].map (·.orderingKey)).Pairwise (compare · · = .lt))
    rw [keys]
    decide
  obtain ⟨ordered, stored⟩ :=
    (@dispatch_determined ScriptedWork ScriptedWork _ _).2 [b, a, c] distinct
  have order (listed : List (Job ScriptedWork)) (arranged : listed.Perm [b, a, c]) :
      [b, a, c] = dispatched listed := ((ordered listed arranged).2 _).mpr ⟨.refl _, ascending⟩
  refine ⟨a, b, c, restored_a, restored_b, restored_c,
    (order [c, a, b] (List.reverse_perm [b, a, c])).symm, ?_⟩
  have reachable {r : Record} {d : Job ScriptedWork} (h : restore r work = .ok d) : d.Reachable :=
    ⟨d, .restored r work h, [], rfl⟩
  obtain ⟨again, restored, same⟩ := stored
    (by simp [reachable restored_a, reachable restored_b, reachable restored_c]) fun _ => work
  refine ⟨again, restored, ?_⟩
  rw [same again.reverse (List.reverse_perm again), ← order [b, a, c] (.refl _)]

end Job

end DeferredJobs
