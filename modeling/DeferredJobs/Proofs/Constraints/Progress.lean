import DeferredJobs.Proofs.Constraints.Rule

/-!
# Jobs do not go back

While its constraints stay the same, a job that is not cancelled moves on only: time passes, the
network gets better, and what the job is told never falls behind what it was told before.

* **Stages** (`Eligibility.stage?`): what a job can be told, from a delay to a deadline that ends
  the job.
* **Conditions** (`Constraints.Reaches`): for each stage what a job at this stage or a later one
  has behind it. The stage of a job is the last one whose condition holds
  (`Constraints.Decides.reaches_stage`).
* **Progress**: once such a condition holds it holds for good (`Constraints.Reaches.mono`), in
  whatever order the windows end.

`Constraints.evaluate_moves_on` puts this together.
-/

namespace DeferredJobs

/-! ### Stages -/

/-- Networks in order: none, a metered one, an unmetered one. -/
def Connectivity.rank : Connectivity → Nat
  | disconnected => 0
  | metered => 1
  | unmetered => 2

instance : LE Connectivity := ⟨fun a b => a.rank ≤ b.rank⟩

instance (a b : Connectivity) : Decidable (a ≤ b) :=
  inferInstanceAs (Decidable (a.rank ≤ b.rank))

theorem Connectivity.ne_disconnected_iff {k : Connectivity} : k ≠ .disconnected ↔ 1 ≤ k.rank := by
  cases k <;> decide

theorem Connectivity.eq_unmetered_iff {k : Connectivity} : k = .unmetered ↔ 2 ≤ k.rank := by
  cases k <;> decide

/-- How far a job has come that is told `e`. There is no stage for what a job is told that is
cancelled or completed. -/
def Eligibility.stage? : Eligibility → Option Nat
  | delayed _ => some 0
  | awaitingNetwork => some 1
  | awaitingUnmetered => some 2
  | forcedByDeadline => some 3
  | runnable => some 4
  | hitDeadline => some 5
  | cancelled | completed => none

namespace Constraints

/-- What a job has behind it that has come as far as a stage. -/
def Reaches (c : Constraints) (t : Nanos) (network : Connectivity) : Nat → Prop
  | 0 => True
  | 1 => c.DelayOver t ∨ c.Expired t
  | 2 => c.DelayOver t ∧ c.NetworkMet t network ∨ c.Expired t
  | 3 => c.Unblocked t network ∨ c.Expired t
  | 4 => c.Unblocked t network ∨ c.Expired t ∧ c.cancelOnDeadline = true
  | 5 => c.Expired t ∧ c.cancelOnDeadline = true
  | _ => False

variable {c : Constraints} {t t' : Nanos} {network network' : Connectivity} {e : Eligibility}

/-- Each condition includes the one before. -/
theorem Reaches.pred {n : Nat} (h : c.Reaches t network (n + 1)) : c.Reaches t network n := by
  match n with
  | 0 => trivial
  | 1 => exact h.imp_left And.left
  | 2 => exact h.imp_left fun unblocked => ⟨unblocked.delayOver, unblocked.networkMet⟩
  | 3 => exact h.imp_right And.left
  | 4 => exact .inr h
  | _ + 5 => exact h.elim

theorem Reaches.of_le {m n : Nat} (h : c.Reaches t network n) (le : m ≤ n) :
    c.Reaches t network m := by
  induction le with
  | refl => exact h
  | step _ ih => exact ih h.pred

/-- The stage of a job is the last one whose condition holds. -/
theorem Decides.reaches_stage (h : c.Decides t network e) :
    ∃ i, e.stage? = some i ∧ c.Reaches t network i ∧ ¬c.Reaches t network (i + 1) := by
  cases h with
  | hitDeadline expired ends => exact ⟨5, rfl, ⟨expired, ends⟩, id⟩
  | forcedByDeadline expired lifts blocked =>
    have lives : ¬(c.Expired t ∧ c.cancelOnDeadline = true) := by simp [lifts]
    exact ⟨3, rfl, .inr expired, fun beyond => beyond.elim blocked lives⟩
  | runnable lives unblocked => exact ⟨4, rfl, .inl unblocked, lives⟩
  | delayed early lasts =>
    have delay : ¬c.DelayOver t := (delayLasts_iff.mp lasts).1
    exact ⟨0, rfl, trivial, fun beyond => beyond.elim delay early⟩
  | awaitingNetwork early delay lacks =>
    exact ⟨1, rfl, .inl delay, fun beyond => beyond.elim (fun met => lacks met.2) early⟩
  | awaitingUnmetered early delay met lacks =>
    exact ⟨2, rfl, .inl ⟨delay, met⟩,
      fun beyond => beyond.elim (fun unblocked => lacks unblocked.unmeteredMet) early⟩

/-! ### Conditions hold for good -/

/-- What is behind a job stays behind it. -/
theorem le_upTo_mono {b : TimeBound} (later : t ≤ t') (h : b ≤ .upTo t) : b ≤ .upTo t' :=
  Std.le_trans h (TimeBound.upTo_le_upTo.mpr later)

theorem Expired.mono (later : t ≤ t') (h : c.Expired t) : c.Expired t' := le_upTo_mono later h

theorem DelayOver.mono (later : t ≤ t') (h : c.DelayOver t) : c.DelayOver t' :=
  le_upTo_mono later h

theorem NetworkMet.mono (later : t ≤ t') (better : network ≤ network')
    (h : c.NetworkMet t network) : c.NetworkMet t' network' := by
  refine h.imp (le_upTo_mono later) fun connected => ?_
  exact Connectivity.ne_disconnected_iff.mpr
    (Nat.le_trans (Connectivity.ne_disconnected_iff.mp connected) better)

theorem UnmeteredMet.mono (later : t ≤ t') (better : network ≤ network')
    (h : c.UnmeteredMet t network) : c.UnmeteredMet t' network' := by
  refine h.imp (le_upTo_mono later) fun unmetered => ?_
  exact Connectivity.eq_unmetered_iff.mpr
    (Nat.le_trans (Connectivity.eq_unmetered_iff.mp unmetered) better)

theorem Unblocked.mono (later : t ≤ t') (better : network ≤ network')
    (h : c.Unblocked t network) : c.Unblocked t' network' where
  delayOver := h.delayOver.mono later
  networkMet := h.networkMet.mono later better
  unmeteredMet := h.unmeteredMet.mono later better

theorem Reaches.mono (later : t ≤ t') (better : network ≤ network') {n : Nat}
    (h : c.Reaches t network n) : c.Reaches t' network' n := by
  match n with
  | 0 => trivial
  | 1 => exact h.imp (.mono later) (.mono later)
  | 2 => exact h.imp (And.imp (.mono later) (.mono later better)) (.mono later)
  | 3 => exact h.imp (.mono later better) (.mono later)
  | 4 => exact h.imp (.mono later better) (And.imp_left (.mono later))
  | 5 => exact h.imp_left (.mono later)
  | _ + 6 => exact h.elim

/-! ### Moving on -/

/-- **A job never goes back.** As time passes and the network gets better, a job that is not
cancelled stays at its stage or comes to a later one. In particular it stays runnable until its
deadline ends it, it has hit its deadline for good, and as long as it is delayed the instant that
it waits for is the same. -/
theorem evaluate_moves_on (c : Constraints) {t t' : Nanos} {network network' : Connectivity}
    (later : t ≤ t') (better : network ≤ network') :
    let before := c.evaluate false t network
    let after := c.evaluate false t' network'
    (∃ i j, before.stage? = some i ∧ after.stage? = some j ∧ i ≤ j) ∧
    (before.isRunnable = true → ¬(c.Expired t' ∧ c.cancelOnDeadline = true) →
      after.isRunnable = true) ∧
    (before = .hitDeadline → after = .hitDeadline) ∧
    (∀ wake wake', before = .delayed wake → after = .delayed wake' → wake = wake') := by
  intro before after
  refine ⟨?_, fun runs lives => ?_, fun hit => ?_, fun wake wake' waits waits' => ?_⟩
  · obtain ⟨i, at_i, reached, -⟩ := (evaluate_eq_iff.mp (rfl : _ = before)).reaches_stage
    obtain ⟨j, at_j, -, not_beyond⟩ := (evaluate_eq_iff.mp (rfl : _ = after)).reaches_stage
    have still : c.Reaches t' network' i := reached.mono later better
    exact ⟨i, j, at_i, at_j, Nat.le_of_not_lt fun beyond => not_beyond (still.of_le beyond)⟩
  · refine isRunnable_evaluate_iff.mpr ⟨lives, ?_⟩
    exact (isRunnable_evaluate_iff.mp runs).2.imp (.mono later) (.mono later better)
  · obtain ⟨expired, ends⟩ := evaluate_eq_hitDeadline_iff.mp hit
    exact evaluate_eq_hitDeadline_iff.mpr ⟨expired.mono later, ends⟩
  · obtain ⟨-, lasts⟩ := evaluate_eq_delayed_iff.mp waits
    obtain ⟨-, lasts'⟩ := evaluate_eq_delayed_iff.mp waits'
    rw [(delayLasts_iff.mp lasts).2, (delayLasts_iff.mp lasts').2]

/-- A job is delayed, then lacks an unmetered network, and may run when its last window ends; it
still may when the network gets better. -/
theorem evaluate_moves_on_past_windows :
    let c : Constraints := { delayUntil := .upTo 3, windows := ⟨.upTo 5, .upTo 7⟩ }
    c.evaluate false 2 .metered = .delayed 3 ∧
      c.evaluate false 4 .metered = .awaitingUnmetered ∧
      c.evaluate false 7 .metered = .runnable ∧
      (c.evaluate false 8 .unmetered).isRunnable = true := by
  intro c
  have later : (7 : Nanos) ≤ 8 := by decide
  have better : Connectivity.metered ≤ .unmetered := by decide
  obtain ⟨-, stays, -⟩ := c.evaluate_moves_on later better
  exact ⟨by decide, by decide, by decide, stays (by decide) (by decide)⟩

end Constraints

end DeferredJobs
