import DeferredJobs.Clock
import DeferredJobs.Proofs.Job.Effects
import DeferredJobs.Work.Rehearsal
import Mathlib.Algebra.GroupWithZero.Nat

/-!
# Moving instants forward

`offset` moves an instant forward by a duration and stops at the last instant. It does so in two
steps, each of which has a stop of its own: the duration is cut down to the largest count that an
instant can hold, and then the sum is kept within the instants.

* **From zero on** the two stops come to the same as one: a duration that is cut down leads to the
  last instant anyway.
* **Before zero** they do not (`CutShort`): what is left of the duration leads to an instant before
  the last one, although the whole duration leads further (`toInt_offset_of_cutShort`).
* **Clocks** that move forward step by step (`ManualClock.toInt_advanceAll`) show the sum of their
  steps, as long as no step is cut short.

`offset_exact_iff` puts this together, for timeouts, delays and clocks.
-/

namespace DeferredJobs

variable {now later : Nanos} {d : Duration}

/-- The instant that is `d` after `now`, or the last one if that is earlier, as a number of
nanoseconds. -/
def instantAfter (now : Nanos) (d : Duration) : Int :=
  min (now.toInt + d.nanos) Int64.maxValue.toInt

/-- The duration is cut down although the reading leaves room for more. -/
def CutShort (now : Nanos) (d : Duration) : Prop :=
  now.toInt < 0 ∧ Int64.maxValue.toInt < d.nanos

instance (now : Nanos) (d : Duration) : Decidable (CutShort now d) :=
  inferInstanceAs (Decidable (_ ∧ _))

/-! ### One step -/

theorem toInt_offset_eq_min (now : Nanos) (d : Duration) :
    (offset now d).toInt =
      min (now.toInt + min (d.nanos : Int) Int64.maxValue.toInt) Int64.maxValue.toInt := by
  have least : Int64.minValue.toInt ≤ now.toInt := Int64.minValue_le_toInt now
  have largest : Int64.maxValue.toInt = 9223372036854775807 := rfl
  rw [offset, Int64.ofIntClamp, dif_pos (by omega)]
  split
  · next fits => rw [Int64.toInt_ofIntLE, Int.min_eq_left fits]
  · next leaves => rw [Int.min_eq_right (by omega)]

/-- What is left of a duration that is cut short. -/
theorem toInt_offset_of_cutShort (short : CutShort now d) :
    (offset now d).toInt = now.toInt + Int64.maxValue.toInt := by
  obtain ⟨before, long⟩ := short
  rw [toInt_offset_eq_min, Int.min_eq_right (Int.le_of_lt long), Int.min_eq_left (by omega)]

theorem toInt_offset_eq_instantAfter_iff :
    (offset now d).toInt = instantAfter now d ↔ ¬CutShort now d := by
  rw [toInt_offset_eq_min, instantAfter, CutShort]
  omega

/-- An offset leads forward. -/
theorem toInt_le_toInt_offset (now : Nanos) (d : Duration) : now.toInt ≤ (offset now d).toInt := by
  have most : now.toInt ≤ Int64.maxValue.toInt := Int64.toInt_le now
  have positive : 0 < Int64.maxValue.toInt := by decide
  rw [toInt_offset_eq_min]
  omega

/-- Later readings leave no more room. -/
theorem CutShort.of_le (short : CutShort later d) (le : now.toInt ≤ later.toInt) :
    CutShort now d := ⟨Int.lt_of_le_of_lt le short.1, short.2⟩

/-! ### Several steps -/

namespace ManualClock

/-- Moves the clock forward several times. -/
def advanceAll (c : ManualClock) (steps : List Duration) : ManualClock := steps.foldl advance c

/-- **A clock shows the sum of its steps**, or the last instant, unless one of them is cut
short. -/
theorem toInt_advanceAll (c : ManualClock) (steps : List Duration)
    (whole : ∀ d ∈ steps, ¬CutShort c.now d) :
    (c.advanceAll steps).now.toInt =
      min (c.now.toInt + (steps.map (·.nanos)).sum) Int64.maxValue.toInt := by
  induction steps generalizing c with
  | nil =>
    have most : c.now.toInt ≤ Int64.maxValue.toInt := Int64.toInt_le c.now
    rw [List.map_nil, List.sum_nil, Int.natCast_zero, Int.add_zero, Int.min_eq_left most]
    rfl
  | cons d steps ih =>
    obtain ⟨first, others⟩ := List.forall_mem_cons.mp whole
    have forward : c.now.toInt ≤ (c.advance d).now.toInt := toInt_le_toInt_offset c.now d
    have step : (c.advance d).now.toInt = instantAfter c.now d :=
      toInt_offset_eq_instantAfter_iff.mpr first
    -- the first step leaves the others no more room than they had
    have rest := ih (c.advance d) fun d' mem short => others d' mem (short.of_le forward)
    rw [instantAfter] at step
    rw [List.map_cons, List.sum_cons]
    change ((c.advance d).advanceAll steps).now.toInt = _
    rw [rest, step]
    omega

/-- **Two steps or one.** Two steps that make up `d` lead where `d` leads, but for a duration that
is cut short while neither of its parts is empty. -/
theorem advance_advance_eq_iff (c : ManualClock) {a b : Duration}
    (sum : a.nanos + b.nanos = d.nanos) :
    ((c.advance a).advance b).now = (c.advance d).now ↔
      ¬CutShort c.now d ∨ a = .zero ∨ b = .zero := by
  have positive : 0 < Int64.maxValue.toInt := by decide
  have most : c.now.toInt ≤ Int64.maxValue.toInt := Int64.toInt_le c.now
  have empty {d : Duration} : d = .zero ↔ d.nanos = 0 := Duration.nanos_inj.symm
  simp only [advance, ← Int64.toInt_inj, toInt_offset_eq_min, CutShort, empty]
  omega

end ManualClock

/-! ### Wherever instants are moved -/

/-- **When an instant is where it should be.** Moving an instant forward leads to the exact sum, or
to the last instant if the sum is beyond it, in all cases but one: the reading is before zero, and
the duration is longer than the largest count that an instant can hold. In this case the instant is
as far from the last one as the reading is from zero, and before the one that it should be.

Timeouts are sealed at this instant, a retry delays the job up to it, and a clock that is moved
forward shows it. So a clock that is moved forward by two steps shows the same as after one step
that is as long as both, but in the one case that this step is cut short and neither of the two is
empty; and a clock that is moved forward by any steps of which none is cut short shows their sum, or
the last instant. -/
theorem offset_exact_iff (now : Nanos) (d : Duration) :
    ((offset now d).toInt = instantAfter now d ↔ ¬CutShort now d) ∧
    (CutShort now d → (offset now d).toInt = now.toInt + Int64.maxValue.toInt ∧
      (offset now d).toInt < instantAfter now d) ∧
    ((Timeout.after d).sealedAt now = .upTo (offset now d) ∧
      (∀ {ω : Type} [Work ω] (job : Job ω) (r : RetryConstraint), job.retry = some (r.withDelay d) →
        (job.apply .tryAgain now).2.delayUntil = .upTo (offset now d)) ∧
      (ManualClock.advance ⟨now⟩ d).now = offset now d) ∧
    (∀ a b : Duration, a.nanos + b.nanos = d.nanos →
      (((ManualClock.advance ⟨now⟩ a).advance b).now = (ManualClock.advance ⟨now⟩ d).now ↔
        ¬CutShort now d ∨ a = .zero ∨ b = .zero)) ∧
    ∀ steps : List Duration, (∀ step ∈ steps, ¬CutShort now step) →
      ((ManualClock.mk now).advanceAll steps).now.toInt =
        min (now.toInt + (steps.map (·.nanos)).sum) Int64.maxValue.toInt := by
  refine ⟨toInt_offset_eq_instantAfter_iff, fun short => ?_, ⟨rfl, fun job r pending => ?_, rfl⟩,
    fun a b sum => ManualClock.advance_advance_eq_iff ⟨now⟩ sum,
    fun steps whole => ManualClock.toInt_advanceAll ⟨now⟩ steps whole⟩
  · have value := toInt_offset_of_cutShort short
    obtain ⟨before, long⟩ := short
    refine ⟨value, ?_⟩
    rw [value, instantAfter]
    omega
  · have applied : job.retryApplied? .tryAgain = some (r.withDelay d) := pending
    rw [Job.apply_eq, applied]
    rfl

/-- A nanosecond before zero, a retry asks for a delay of 2⁶³ ns. The job is delayed up to the
instant before the last one, and a clock that is moved forward by as much shows it; in two steps,
the clock reaches the last instant. -/
theorem offset_exact_iff_two_steps :
    let d : Duration := ⟨9223372036854775808, by decide⟩
    let a : Duration := ⟨9223372036854775807, by decide⟩
    let b : Duration := ⟨1, by decide⟩
    let r : Record :=
      { id := "sync", persistent := true, priority := 3, groupId := none, runCount := 0
        createdAt := 0, delayUntil := .never, insertionOrder := none, session := ⟨1⟩
        windows := ⟨.never, .never⟩, deadline := .forever, cancelOnDeadline := false
        tags := none, retry := some (RetryConstraint.again.withDelay d) }
    let job : Job ScriptedWork := { r with work := ⟨⟨[], {}, [], 3⟩⟩ }
    let c : ManualClock := ⟨-1⟩
    (CutShort (-1) d ∧ a.nanos + b.nanos = d.nanos ∧ ∀ step ∈ [a, b], ¬CutShort (-1) step) ∧
      (offset (-1) d).toInt = 9223372036854775806 ∧
      (job.apply .tryAgain (-1)).2.delayUntil = .upTo (offset (-1) d) ∧
      ((c.advance a).advance b).now ≠ (c.advance d).now ∧
      (c.advanceAll [a, b]).now = Int64.maxValue := by
  intro d a b r job c
  have short : CutShort (-1) d := by decide
  have sum : a.nanos + b.nanos = d.nanos := rfl
  have whole : ∀ step ∈ [a, b], ¬CutShort (-1) step := by decide
  obtain ⟨-, value, ⟨-, delayed, -⟩, two_steps, steps⟩ := offset_exact_iff (-1) d
  refine ⟨⟨short, sum, whole⟩, (value short).1, delayed job .again rfl, fun same => ?_,
    Int64.toInt_inj.mp (steps [a, b] whole)⟩
  obtain unhurt | none_a | none_b := (two_steps a b sum).mp same
  · exact unhurt short
  · exact absurd none_a (by decide)
  · exact absurd none_b (by decide)

/-- From the first instant on, the longest count that leads to an instant at all leads to the last
one, and the offset stops a nanosecond before zero. -/
theorem offset_falls_short :
    let d : Duration := ⟨18446744073709551615, by decide⟩
    Int64.minValue.toInt + d.nanos = Int64.maxValue.toInt ∧ offset Int64.minValue d = -1 := by
  decide

end DeferredJobs
