import DeferredJobs.Proofs.Constraints
import Mathlib.Data.List.Chain

/-!
# Waking up in time

Constraints consist of bounds, and what they answer changes only where one of the bounds ends.

* **Ends** (`Constraints.ends`): from one end to the next the answer stays the same
  (`Constraints.evaluate_eq_of_no_end`), and the next wake is the first end that lies ahead
  (`Constraints.nextWake_eq_some_iff`).
* **Wakes** (`Constraints.wakes`): whoever goes back to sleep until the next wake, again and
  again, wakes up at most once for each of the four bounds.

`Constraints.wakes_suffice` puts this together: between wakes there is nothing to be missed.
-/

namespace DeferredJobs

/-- A condition changes only where its bound ends. -/
theorem TimeBound.isPending_eq {b : TimeBound} {now t : Nanos} (since : now ≤ t)
    (quiet : ∀ s, b.instant? = some s → now < s → t < s) : b.isPending t = b.isPending now := by
  cases b with
  | never | forever => rfl
  | upTo s =>
    rw [isPending_upTo, isPending_upTo, decide_eq_decide]
    exact ⟨fun h => Std.lt_of_le_of_lt since h, fun h => quiet s rfl h⟩

namespace Constraints

/-! ### Ends -/

/-- The bounds of which constraints consist. -/
def bounds (c : Constraints) : List TimeBound :=
  [c.delayUntil, c.windows.network, c.windows.unmetered, c.deadline]

/-- The instants at which a bound ends. -/
def ends (c : Constraints) : List Nanos := c.bounds.filterMap TimeBound.instant?

/-- The ends that lie ahead at `now`. -/
def endsAfter (c : Constraints) (now : Nanos) : List Nanos := c.ends.filter (now < ·)

variable {c : Constraints} {cancelled : Bool} {network : Connectivity} {now t : Nanos}

theorem mem_endsAfter : t ∈ c.endsAfter now ↔ t ∈ c.ends ∧ now < t := by
  rw [endsAfter, List.mem_filter, decide_eq_true_iff]

theorem length_endsAfter_le (c : Constraints) (now : Nanos) : (c.endsAfter now).length ≤ 4 :=
  calc (c.endsAfter now).length ≤ c.ends.length := List.length_filter_le ..
    _ ≤ c.bounds.length := List.length_filterMap_le ..

/-- The next wake is the first end that lies ahead. -/
theorem nextWake_eq (c : Constraints) (now : Nanos) :
    c.nextWake now = (c.endsAfter now).min? := by
  -- a bound that is pending and ends somewhere is one whose end lies ahead
  have ahead (b : TimeBound) :
      (if b.isPending now then b.instant? else none) = b.instant?.filter (now < ·) := by
    cases b <;> rfl
  rw [nextWake, endsAfter, ends, List.filterMap_filter, List.filter_filterMap]
  simp only [ahead, bounds]

theorem nextWake_eq_some_iff :
    c.nextWake now = some t ↔ t ∈ c.ends ∧ now < t ∧ ∀ s ∈ c.ends, now < s → t ≤ s := by
  simp only [nextWake_eq, List.min?_eq_some_iff, mem_endsAfter, and_assoc, and_imp]

theorem nextWake_eq_none_iff : c.nextWake now = none ↔ ∀ s ∈ c.ends, ¬now < s := by
  simp only [nextWake_eq, List.min?_eq_none_iff, endsAfter, List.filter_eq_nil_iff,
    decide_eq_true_iff]

/-! ### Between ends -/

/-- Instants at which the same bounds are pending have the same answer. -/
theorem evaluate_congr (same : ∀ b ∈ c.bounds, b.isPending t = b.isPending now) :
    c.evaluate cancelled t network = c.evaluate cancelled now network := by
  simp only [bounds, List.forall_mem_cons] at same
  obtain ⟨delay, net, unmetered, deadline, -⟩ := same
  have blocked : c.outstanding? t network = c.outstanding? now network := by
    rw [outstanding?, outstanding?, requiresNetwork, requiresNetwork, requiresUnmetered,
      requiresUnmetered, delay, net, unmetered]
  rw [evaluate, evaluate, blocked, deadlineReached, deadlineReached, TimeBound.hasPassed,
    TimeBound.hasPassed, deadline]

/-- **The answer stays** for as long as no bound ends. -/
theorem evaluate_eq_of_no_end (since : now ≤ t) (quiet : ∀ s ∈ c.ends, now < s → t < s) :
    c.evaluate cancelled t network = c.evaluate cancelled now network :=
  evaluate_congr fun b among => b.isPending_eq since fun s ends =>
    quiet s (List.mem_filterMap.mpr ⟨b, among, ends⟩)

theorem evaluate_eq_of_lt_nextWake {w : Nanos} (h : c.nextWake now = some w) (since : now ≤ t)
    (before : t < w) : c.evaluate cancelled t network = c.evaluate cancelled now network := by
  obtain ⟨-, -, first⟩ := nextWake_eq_some_iff.mp h
  exact evaluate_eq_of_no_end since fun s among ahead =>
    Std.lt_of_lt_of_le before (first s among ahead)

theorem evaluate_eq_of_nextWake_eq_none (h : c.nextWake now = none) (since : now ≤ t) :
    c.evaluate cancelled t network = c.evaluate cancelled now network :=
  evaluate_eq_of_no_end since fun s among ahead => absurd ahead (nextWake_eq_none_iff.mp h s among)

/-! ### Wakes -/

/-- At a wake, fewer ends lie ahead than before. -/
theorem length_endsAfter_lt {w : Nanos} (h : c.nextWake now = some w) :
    (c.endsAfter w).length < (c.endsAfter now).length := by
  obtain ⟨among, ahead, -⟩ := nextWake_eq_some_iff.mp h
  -- what lies ahead of the wake has been ahead before, and the wake itself drops out
  have later : c.endsAfter w = (c.endsAfter now).filter (w < ·) := by
    rw [endsAfter, endsAfter, List.filter_filter]
    refine List.filter_congr fun s _ => ?_
    rw [← Bool.decide_and, decide_eq_decide]
    exact ⟨fun h' => ⟨h', Std.lt_trans ahead h'⟩, And.left⟩
  rw [later, List.length_filter_lt_length_iff_exists]
  exact ⟨w, mem_endsAfter.mpr ⟨among, ahead⟩, by simp⟩

/-- When one wakes up who sleeps from `now` to the next wake, and from there to the next, until
there is none. -/
def wakes (c : Constraints) (now : Nanos) : List Nanos :=
  match _h : c.nextWake now with
  | none => []
  | some w => w :: c.wakes w
termination_by (c.endsAfter now).length
decreasing_by exact length_endsAfter_lt _h

theorem wakes_eq_nil (h : c.nextWake now = none) : c.wakes now = [] := by
  rw [wakes]
  split
  · rfl
  · next w h' => simp [h] at h'

theorem wakes_eq_cons {w : Nanos} (h : c.nextWake now = some w) :
    c.wakes now = w :: c.wakes w := by
  rw [wakes]
  split
  · next h' => simp [h] at h'
  · next w' h' =>
    rw [h] at h'
    obtain rfl := Option.some.inj h'
    rfl

/-- Each wake is the next one as seen from the one before. -/
theorem isChain_wakes (c : Constraints) (now : Nanos) :
    (now :: c.wakes now).IsChain (c.nextWake · = some ·) := by
  induction now using wakes.induct c with
  | case1 now asleep =>
    rw [wakes_eq_nil asleep]
    exact .singleton now
  | case2 now w wake ih =>
    rw [wakes_eq_cons wake]
    exact .cons_cons wake ih

/-- After the last wake there is no next one. -/
theorem nextWake_getLast_wakes (c : Constraints) (now : Nanos) :
    c.nextWake ((now :: c.wakes now).getLast (List.cons_ne_nil _ _)) = none := by
  induction now using wakes.induct c with
  | case1 now asleep => simpa only [wakes_eq_nil asleep, List.getLast_singleton] using asleep
  | case2 now w wake ih => simpa only [wakes_eq_cons wake, List.getLast_cons_cons] using ih

/-- Wakes go on as long as there is a next one. -/
theorem mem_wakes_of_nextWake {s w : Nanos} (h : s ∈ now :: c.wakes now)
    (wake : c.nextWake s = some w) : w ∈ c.wakes now := by
  induction now using wakes.induct c with
  | case1 now asleep =>
    rw [wakes_eq_nil asleep, List.mem_singleton] at h
    simp [h, asleep] at wake
  | case2 now first next ih =>
    rw [wakes_eq_cons next] at h ⊢
    obtain rfl | later := List.mem_cons.mp h
    · obtain rfl := Option.some.inj (next.symm.trans wake)
      exact List.mem_cons_self
    · exact List.mem_cons_of_mem _ (ih later)

theorem length_wakes_le (c : Constraints) (now : Nanos) :
    (c.wakes now).length ≤ (c.endsAfter now).length := by
  induction now using wakes.induct c with
  | case1 now asleep => simp [wakes_eq_nil asleep]
  | case2 now w wake ih =>
    rw [wakes_eq_cons wake]
    exact Nat.succ_le_of_lt (Nat.lt_of_le_of_lt ih (length_endsAfter_lt wake))

/-- The wakes come in order. -/
theorem pairwise_wakes (c : Constraints) (now : Nanos) :
    (now :: c.wakes now).Pairwise (· < ·) :=
  ((c.isChain_wakes now).imp fun _ _ => lt_of_nextWake).pairwise

/-- Of the instants at which one is awake, there is a last one that is not after `t`. -/
theorem exists_last_wake (c : Constraints) (since : now ≤ t) :
    ∃ s ∈ now :: c.wakes now, s ≤ t ∧ ∀ u ∈ now :: c.wakes now, u ≤ t → u ≤ s := by
  induction now using wakes.induct c with
  | case1 now asleep =>
    refine ⟨now, List.mem_cons_self, since, fun u awake _ => ?_⟩
    rw [wakes_eq_nil asleep, List.mem_singleton] at awake
    exact awake ▸ Std.le_refl u
  | case2 now w wake ih =>
    rw [wakes_eq_cons wake]
    by_cases past : w ≤ t
    · obtain ⟨s, awake, before, last⟩ := ih past
      refine ⟨s, List.mem_cons_of_mem _ awake, before, List.forall_mem_cons.mpr ⟨fun _ => ?_, last⟩⟩
      exact Std.le_trans (Std.le_of_lt (lt_of_nextWake wake)) (last w List.mem_cons_self past)
    · -- none of the wakes has come yet
      refine ⟨now, List.mem_cons_self, since, List.forall_mem_cons.mpr
        ⟨fun _ => Std.le_refl now, fun u awake before => absurd ?_ past⟩⟩
      obtain rfl | later := List.mem_cons.mp awake
      · exact before
      · have after : w < u := List.rel_of_pairwise_cons (c.pairwise_wakes w) later
        exact Std.le_trans (Std.le_of_lt after) before

/-- **Nothing is missed**: whoever was awake last at `s` knows the answer at `t`. -/
theorem evaluate_eq_of_last_wake {s : Nanos} (awake : s ∈ now :: c.wakes now) (before : s ≤ t)
    (last : ∀ u ∈ now :: c.wakes now, u ≤ t → u ≤ s) :
    c.evaluate cancelled t network = c.evaluate cancelled s network := by
  cases wake : c.nextWake s with
  | none => exact evaluate_eq_of_nextWake_eq_none wake before
  | some w =>
    -- the next wake is after `t`, or else `s` would not be the last one before
    refine evaluate_eq_of_lt_nextWake wake before (Std.not_le.mp fun past => ?_)
    have member := List.mem_cons_of_mem now (mem_wakes_of_nextWake awake wake)
    exact Std.not_lt.mpr (last w member past) (lt_of_nextWake wake)

/-- **Waking up at wakes suffices.** The next wake lies ahead, and the answer to whether a job may
run is the same until then, or for good if there is none. So, starting at any instant, one wakes up
at ever later instants and at most four times, and what was answered at the last of them, or at the
start, is the answer at every instant that follows. -/
theorem wakes_suffice (c : Constraints) (cancelled : Bool) (network : Connectivity)
    (now : Nanos) :
    (∀ w, c.nextWake now = some w → now < w ∧ ∀ t, now ≤ t → t < w →
      c.evaluate cancelled t network = c.evaluate cancelled now network) ∧
    (c.nextWake now = none → ∀ t, now ≤ t →
      c.evaluate cancelled t network = c.evaluate cancelled now network) ∧
    (now :: c.wakes now).IsChain (c.nextWake · = some ·) ∧
    c.nextWake ((now :: c.wakes now).getLast (List.cons_ne_nil _ _)) = none ∧
    (now :: c.wakes now).Pairwise (· < ·) ∧ (c.wakes now).length ≤ 4 ∧
    ∀ t, now ≤ t → ∃ s ∈ now :: c.wakes now, s ≤ t ∧
      (∀ u ∈ now :: c.wakes now, u ≤ t → u ≤ s) ∧
      c.evaluate cancelled t network = c.evaluate cancelled s network := by
  refine ⟨fun w wake => ⟨lt_of_nextWake wake, fun t => evaluate_eq_of_lt_nextWake wake⟩,
    fun asleep t => evaluate_eq_of_nextWake_eq_none asleep, c.isChain_wakes now,
    c.nextWake_getLast_wakes now, c.pairwise_wakes now,
    Nat.le_trans (c.length_wakes_le now) (c.length_endsAfter_le now), fun t since => ?_⟩
  obtain ⟨s, awake, before, last⟩ := c.exists_last_wake since
  exact ⟨s, awake, before, last, evaluate_eq_of_last_wake awake before last⟩

/-- A night of four wakes, from the first instant to the last, in which the windows end in the
wrong order. -/
theorem wakes_suffice_four :
    let c : Constraints :=
      { delayUntil := .upTo 10, windows := ⟨.upTo 20, .upTo 30⟩, deadline := .upTo Int64.maxValue }
    c.wakes Int64.minValue = [10, 20, 30, Int64.maxValue] ∧
      (Int64.minValue ≤ 29 ∧ c.evaluate false 29 .disconnected = .awaitingUnmetered) ∧
      c.evaluate false 29 .disconnected = c.evaluate false 20 .disconnected := by
  intro c
  have wakes : c.wakes Int64.minValue = [10, 20, 30, Int64.maxValue] := by
    rw [wakes_eq_cons (show c.nextWake Int64.minValue = some 10 by decide),
      wakes_eq_cons (show c.nextWake 10 = some 20 by decide),
      wakes_eq_cons (show c.nextWake 20 = some 30 by decide),
      wakes_eq_cons (show c.nextWake 30 = some Int64.maxValue by decide),
      wakes_eq_nil (by decide)]
  obtain ⟨-, -, -, -, -, -, answers⟩ := c.wakes_suffice false .disconnected Int64.minValue
  obtain ⟨s, awake, before, last, same⟩ := answers 29 (by decide)
  rw [wakes] at awake last
  have latest : 20 ≤ s := last 20 (by decide) (by decide)
  -- of the five instants only one is left
  obtain rfl : s = 20 := by
    obtain rfl | rfl | rfl | rfl | rfl : s = Int64.minValue ∨ s = 10 ∨ s = 20 ∨ s = 30 ∨
        s = Int64.maxValue := by simpa using awake
    · exact absurd latest (by decide)
    · exact absurd latest (by decide)
    · rfl
    · exact absurd before (by decide)
    · exact absurd before (by decide)
  exact ⟨wakes, ⟨by decide, by decide⟩, same⟩

end Constraints

end DeferredJobs
