import DeferredJobs.Constraints

/-!
# The rule of eligibility

`Constraints.evaluate` asks one question after the other. What it decides can be said without this
order, by conditions that compare bounds with the instant and the network with the windows.

* **Deadline**: once it has passed (`Constraints.Expired`) it ends the job, or it lifts whatever
  holds the job back.
* **Requirements** (`Constraints.DelayOver`, `Constraints.NetworkMet`, `Constraints.UnmeteredMet`):
  nothing holds a job back that meets all of them (`Constraints.Unblocked`), and any other job is
  told the first one that it does not meet.

`Constraints.Decides` is the rule, and `Constraints.evaluate_eq_iff` says that it is what is
evaluated. `Constraints.evaluate_decides` draws the conclusions.
-/

namespace DeferredJobs

theorem TimeBound.isPending_eq_true_iff {b : TimeBound} {t : Nanos} :
    b.isPending t = true ↔ ¬b ≤ .upTo t := by
  rw [← Bool.not_eq_false, isPending_eq_false_iff]

/-- Whether something holds the job back, so that it waits. -/
def Eligibility.isBlocked : Eligibility → Bool
  | delayed _ | awaitingNetwork | awaitingUnmetered => true
  | _ => false

namespace Constraints

/-! ### Conditions -/

/-- The deadline has passed. -/
def Expired (c : Constraints) (t : Nanos) : Prop := c.deadline ≤ .upTo t

/-- The delay has passed. -/
def DelayOver (c : Constraints) (t : Nanos) : Prop := c.delayUntil ≤ .upTo t

/-- The job requires no network any more, or there is one. -/
def NetworkMet (c : Constraints) (t : Nanos) (network : Connectivity) : Prop :=
  c.windows.network ≤ .upTo t ∨ network ≠ .disconnected

/-- The job requires no unmetered network any more, or there is one. -/
def UnmeteredMet (c : Constraints) (t : Nanos) (network : Connectivity) : Prop :=
  c.windows.unmetered ≤ .upTo t ∨ network = .unmetered

instance (c : Constraints) (t : Nanos) : Decidable (c.Expired t) :=
  inferInstanceAs (Decidable (_ ≤ _))

instance (c : Constraints) (t : Nanos) : Decidable (c.DelayOver t) :=
  inferInstanceAs (Decidable (_ ≤ _))

instance (c : Constraints) (t : Nanos) (network : Connectivity) :
    Decidable (c.NetworkMet t network) :=
  inferInstanceAs (Decidable (_ ∨ _))

instance (c : Constraints) (t : Nanos) (network : Connectivity) :
    Decidable (c.UnmeteredMet t network) :=
  inferInstanceAs (Decidable (_ ∨ _))

/-- Nothing holds the job back. -/
structure Unblocked (c : Constraints) (t : Nanos) (network : Connectivity) : Prop where
  delayOver : c.DelayOver t
  networkMet : c.NetworkMet t network
  unmeteredMet : c.UnmeteredMet t network

variable {c : Constraints} {t : Nanos} {network : Connectivity} {e : Eligibility}

theorem deadlineReached_iff : c.deadlineReached t = true ↔ c.Expired t := by
  rw [deadlineReached, TimeBound.hasPassed, Bool.not_eq_true', TimeBound.isPending_eq_false_iff,
    Expired]

theorem lacksNetwork_iff :
    (c.requiresNetwork t && !network.hasNetwork) = true ↔ ¬c.NetworkMet t network := by
  rw [Bool.and_eq_true, requiresNetwork, TimeBound.isPending_eq_true_iff, NetworkMet, not_or]
  cases network <;> simp [Connectivity.hasNetwork]

theorem lacksUnmetered_iff :
    (c.requiresUnmetered t && !network.hasUnmetered) = true ↔ ¬c.UnmeteredMet t network := by
  rw [Bool.and_eq_true, requiresUnmetered, TimeBound.isPending_eq_true_iff, UnmeteredMet, not_or]
  cases network <;> simp [Connectivity.hasUnmetered]

/-! ### What is outstanding -/

theorem outstanding?_of_delay (delay : ¬c.DelayOver t) : c.outstanding? t network =
    some (.delayed (c.delayUntil.instant?.getD Int64.maxValue)) := by
  rw [outstanding?, if_pos (TimeBound.isPending_eq_true_iff.mpr delay)]

theorem outstanding?_of_network (delay : c.DelayOver t) (lacks : ¬c.NetworkMet t network) :
    c.outstanding? t network = some .awaitingNetwork := by
  rw [outstanding?, if_neg (mt TimeBound.isPending_eq_true_iff.mp (not_not_intro delay)),
    if_pos (lacksNetwork_iff.mpr lacks)]

theorem outstanding?_of_unmetered (delay : c.DelayOver t) (met : c.NetworkMet t network)
    (lacks : ¬c.UnmeteredMet t network) : c.outstanding? t network = some .awaitingUnmetered := by
  rw [outstanding?, if_neg (mt TimeBound.isPending_eq_true_iff.mp (not_not_intro delay)),
    if_neg (mt lacksNetwork_iff.mp (not_not_intro met)), if_pos (lacksUnmetered_iff.mpr lacks)]

theorem outstanding?_of_unblocked (unblocked : c.Unblocked t network) :
    c.outstanding? t network = none := by
  obtain ⟨delay, met, unmetered⟩ := unblocked
  rw [outstanding?, if_neg (mt TimeBound.isPending_eq_true_iff.mp (not_not_intro delay)),
    if_neg (mt lacksNetwork_iff.mp (not_not_intro met)),
    if_neg (mt lacksUnmetered_iff.mp (not_not_intro unmetered))]

theorem unblocked_iff : c.Unblocked t network ↔
    c.DelayOver t ∧ c.NetworkMet t network ∧ c.UnmeteredMet t network :=
  ⟨fun h => ⟨h.delayOver, h.networkMet, h.unmeteredMet⟩,
    fun ⟨delay, network, unmetered⟩ => ⟨delay, network, unmetered⟩⟩

/-- A job that something holds back fails to meet a first requirement. -/
theorem not_unblocked_iff : ¬c.Unblocked t network ↔ ¬c.DelayOver t ∨
    (c.DelayOver t ∧ ¬c.NetworkMet t network) ∨
    (c.DelayOver t ∧ c.NetworkMet t network ∧ ¬c.UnmeteredMet t network) := by
  rw [unblocked_iff]
  by_cases delay : c.DelayOver t <;> by_cases met : c.NetworkMet t network <;> simp [delay, met]

theorem isSome_outstanding?_iff :
    (c.outstanding? t network).isSome = true ↔ ¬c.Unblocked t network := by
  refine ⟨fun h unblocked => ?_, fun blocked => ?_⟩
  · simp [outstanding?_of_unblocked unblocked] at h
  · obtain delay | ⟨delay, lacks⟩ | ⟨delay, met, lacks⟩ := not_unblocked_iff.mp blocked
    · rw [outstanding?_of_delay delay, Option.isSome_some]
    · rw [outstanding?_of_network delay lacks, Option.isSome_some]
    · rw [outstanding?_of_unmetered delay met lacks, Option.isSome_some]

/-- The delay ends at `wake`, or it has no end, and `wake` is the last instant there is. -/
def DelayLasts (c : Constraints) (t wake : Nanos) : Prop :=
  c.delayUntil = .upTo wake ∧ t < wake ∨ c.delayUntil = .forever ∧ wake = Int64.maxValue

theorem delayLasts_iff {wake : Nanos} : c.DelayLasts t wake ↔
    ¬c.DelayOver t ∧ wake = c.delayUntil.instant?.getD Int64.maxValue := by
  rw [DelayLasts, DelayOver, ← TimeBound.isPending_eq_true_iff]
  cases c.delayUntil with
  | never => simp
  | upTo s =>
    simp only [TimeBound.upTo.injEq, reduceCtorEq, false_and, or_false, TimeBound.isPending_upTo,
      decide_eq_true_iff, TimeBound.instant?, Option.getD_some]
    constructor
    · rintro ⟨rfl, ahead⟩
      exact ⟨ahead, rfl⟩
    · rintro ⟨ahead, rfl⟩
      exact ⟨rfl, ahead⟩
  | forever => simp [TimeBound.instant?]

/-! ### The rule -/

/-- `c.Decides t network e`: of a job that is not cancelled, the rule says `e`. -/
inductive Decides (c : Constraints) (t : Nanos) (network : Connectivity) : Eligibility → Prop
  /-- An expired deadline ends the job, whatever else holds. -/
  | hitDeadline (expired : c.Expired t) (ends : c.cancelOnDeadline = true) :
      Decides c t network .hitDeadline
  /-- An expired deadline that does not end the job lifts what holds it back. -/
  | forcedByDeadline (expired : c.Expired t) (lifts : c.cancelOnDeadline = false)
      (blocked : ¬c.Unblocked t network) : Decides c t network .forcedByDeadline
  | runnable (lives : ¬(c.Expired t ∧ c.cancelOnDeadline = true))
      (unblocked : c.Unblocked t network) : Decides c t network .runnable
  | delayed {wake : Nanos} (early : ¬c.Expired t) (lasts : c.DelayLasts t wake) :
      Decides c t network (.delayed wake)
  | awaitingNetwork (early : ¬c.Expired t) (delay : c.DelayOver t)
      (lacks : ¬c.NetworkMet t network) : Decides c t network .awaitingNetwork
  | awaitingUnmetered (early : ¬c.Expired t) (delay : c.DelayOver t)
      (met : c.NetworkMet t network) (lacks : ¬c.UnmeteredMet t network) :
      Decides c t network .awaitingUnmetered

theorem evaluate_of_expired (expired : c.Expired t) : c.evaluate false t network =
    if c.cancelOnDeadline then .hitDeadline
    else if (c.outstanding? t network).isSome then .forcedByDeadline else .runnable := by
  rw [evaluate, if_neg Bool.false_ne_true, if_pos (deadlineReached_iff.mpr expired)]

theorem evaluate_of_not_expired (early : ¬c.Expired t) :
    c.evaluate false t network = (c.outstanding? t network).getD .runnable := by
  rw [evaluate, if_neg Bool.false_ne_true, if_neg (mt deadlineReached_iff.mp early)]

/-- What is evaluated is what the rule says. -/
theorem Decides.evaluate_eq (h : c.Decides t network e) : c.evaluate false t network = e := by
  cases h with
  | hitDeadline expired ends => rw [evaluate_of_expired expired, if_pos ends]
  | forcedByDeadline expired lifts blocked =>
    rw [evaluate_of_expired expired, if_neg (Bool.eq_false_iff.mp lifts),
      if_pos (isSome_outstanding?_iff.mpr blocked)]
  | runnable lives unblocked =>
    have nothing : c.outstanding? t network = none := outstanding?_of_unblocked unblocked
    by_cases expired : c.Expired t
    · rw [evaluate_of_expired expired, if_neg fun ends => lives ⟨expired, ends⟩, nothing]
      rfl
    · rw [evaluate_of_not_expired expired, nothing, Option.getD_none]
  | delayed early lasts =>
    obtain ⟨delay, rfl⟩ := delayLasts_iff.mp lasts
    rw [evaluate_of_not_expired early, outstanding?_of_delay delay, Option.getD_some]
  | awaitingNetwork early delay lacks =>
    rw [evaluate_of_not_expired early, outstanding?_of_network delay lacks, Option.getD_some]
  | awaitingUnmetered early delay met lacks =>
    rw [evaluate_of_not_expired early, outstanding?_of_unmetered delay met lacks, Option.getD_some]

/-- The rule says something of every job that is not cancelled. -/
theorem exists_decides (c : Constraints) (t : Nanos) (network : Connectivity) :
    ∃ e, c.Decides t network e := by
  by_cases ends : c.Expired t ∧ c.cancelOnDeadline = true
  · exact ⟨_, .hitDeadline ends.1 ends.2⟩
  · by_cases unblocked : c.Unblocked t network
    · exact ⟨_, .runnable ends unblocked⟩
    · by_cases expired : c.Expired t
      · have lifts : c.cancelOnDeadline = false := by simpa [expired] using ends
        exact ⟨_, .forcedByDeadline expired lifts unblocked⟩
      · obtain delay | ⟨delay, lacks⟩ | ⟨delay, met, lacks⟩ := not_unblocked_iff.mp unblocked
        · exact ⟨_, .delayed expired (delayLasts_iff.mpr ⟨delay, rfl⟩)⟩
        · exact ⟨_, .awaitingNetwork expired delay lacks⟩
        · exact ⟨_, .awaitingUnmetered expired delay met lacks⟩

/-- **The rule is what is evaluated**, and the other way round. -/
theorem evaluate_eq_iff : c.evaluate false t network = e ↔ c.Decides t network e := by
  refine ⟨fun h => ?_, Decides.evaluate_eq⟩
  obtain ⟨e', decides⟩ := c.exists_decides t network
  rwa [← h, decides.evaluate_eq]

/-! ### Conclusions -/

/-- A job that waits does so before its deadline, for something that holds it back. -/
theorem Decides.of_isBlocked (h : c.Decides t network e) (waits : e.isBlocked = true) :
    ¬c.Expired t ∧ ¬c.Unblocked t network := by
  cases h with
  | delayed early lasts => exact ⟨early, fun h => (delayLasts_iff.mp lasts).1 h.delayOver⟩
  | awaitingNetwork early delay lacks => exact ⟨early, fun h => lacks h.networkMet⟩
  | awaitingUnmetered early delay met lacks => exact ⟨early, fun h => lacks h.unmeteredMet⟩
  | hitDeadline | forcedByDeadline | runnable => contradiction

theorem isRunnable_evaluate_iff : (c.evaluate false t network).isRunnable = true ↔
    ¬(c.Expired t ∧ c.cancelOnDeadline = true) ∧ (c.Expired t ∨ c.Unblocked t network) := by
  obtain ⟨e, decides⟩ := c.exists_decides t network
  have waits : e.isBlocked = true → ¬c.Expired t ∧ ¬c.Unblocked t network := decides.of_isBlocked
  rw [decides.evaluate_eq]
  cases decides with
  | hitDeadline expired ends => exact iff_of_false nofun fun h => h.1 ⟨expired, ends⟩
  | forcedByDeadline expired lifts blocked =>
    exact iff_of_true rfl ⟨by simp [lifts], .inl expired⟩
  | runnable lives unblocked => exact iff_of_true rfl ⟨lives, .inr unblocked⟩
  | delayed | awaitingNetwork | awaitingUnmetered =>
    obtain ⟨early, blocked⟩ := waits rfl
    exact iff_of_false nofun fun h => h.2.elim early blocked

theorem evaluate_eq_hitDeadline_iff : c.evaluate false t network = .hitDeadline ↔
    c.Expired t ∧ c.cancelOnDeadline = true :=
  evaluate_eq_iff.trans
    ⟨fun | .hitDeadline expired ends => ⟨expired, ends⟩, fun h => .hitDeadline h.1 h.2⟩

theorem evaluate_eq_delayed_iff {wake : Nanos} : c.evaluate false t network = .delayed wake ↔
    ¬c.Expired t ∧ c.DelayLasts t wake :=
  evaluate_eq_iff.trans
    ⟨fun | .delayed early lasts => ⟨early, lasts⟩, fun h => .delayed h.1 h.2⟩

theorem evaluate_eq_awaitingNetwork_iff : c.evaluate false t network = .awaitingNetwork ↔
    ¬c.Expired t ∧ c.DelayOver t ∧ ¬c.NetworkMet t network :=
  evaluate_eq_iff.trans
    ⟨fun | .awaitingNetwork early delay lacks => ⟨early, delay, lacks⟩,
      fun ⟨early, delay, lacks⟩ => .awaitingNetwork early delay lacks⟩

theorem evaluate_eq_awaitingUnmetered_iff : c.evaluate false t network = .awaitingUnmetered ↔
    ¬c.Expired t ∧ c.DelayOver t ∧ c.NetworkMet t network ∧ ¬c.UnmeteredMet t network :=
  evaluate_eq_iff.trans
    ⟨fun | .awaitingUnmetered early delay met lacks => ⟨early, delay, met, lacks⟩,
      fun ⟨early, delay, met, lacks⟩ => .awaitingUnmetered early delay met lacks⟩

/-! ### The part of the deadline -/

/-- The constraints without their deadline. -/
def undated (c : Constraints) : Constraints := { c with deadline := .forever }

theorem not_expired_undated : ¬c.undated.Expired t :=
  TimeBound.isPending_eq_true_iff.mp (TimeBound.isPending_forever t)

theorem unblocked_undated : c.undated.Unblocked t network ↔ c.Unblocked t network :=
  ⟨fun h => ⟨h.delayOver, h.networkMet, h.unmeteredMet⟩,
    fun h => ⟨h.delayOver, h.networkMet, h.unmeteredMet⟩⟩

/-- Before the deadline it is as if there were none. -/
theorem evaluate_eq_undated (early : ¬c.Expired t) :
    c.evaluate false t network = c.undated.evaluate false t network := by
  rw [evaluate_of_not_expired early, evaluate_of_not_expired not_expired_undated]
  rfl

/-- A deadline that does not end the job forces what would wait otherwise, and nothing else. -/
theorem evaluate_of_lifts (expired : c.Expired t) (lifts : c.cancelOnDeadline = false) :
    c.undated.evaluate false t network = .runnable ∧ c.evaluate false t network = .runnable ∨
      (c.undated.evaluate false t network).isBlocked = true ∧
        c.evaluate false t network = .forcedByDeadline := by
  by_cases unblocked : c.Unblocked t network
  · refine .inl ⟨Decides.evaluate_eq (.runnable (fun h => ?_) (unblocked_undated.mpr unblocked)),
      Decides.evaluate_eq (.runnable (by simp [lifts]) unblocked)⟩
    exact not_expired_undated h.1
  · refine .inr ⟨?_, Decides.evaluate_eq (.forcedByDeadline expired lifts unblocked)⟩
    obtain ⟨e, decides⟩ := c.undated.exists_decides t network
    rw [decides.evaluate_eq]
    cases decides with
    | hitDeadline expired | forcedByDeadline expired => exact absurd expired not_expired_undated
    | runnable lives free => exact absurd (unblocked_undated.mp free) unblocked
    | delayed | awaitingNetwork | awaitingUnmetered => rfl

/-- **The rule decides.** A job may run if and only if it is not cancelled, its deadline does not
end it, and either the deadline has passed or all requirements are met: the delay has passed, the
network window has passed or there is a network, and likewise for an unmetered network. It is told
that it is cancelled if it is, and that it hit its deadline if this ends it. Otherwise the answer
is the one without the deadline, but that after the deadline the job is forced to run where it
would wait. A job that waits is told the first requirement that it does not meet, and the delay
with its own instant, or the last one there is. -/
theorem evaluate_decides (c : Constraints) (cancelled : Bool) (t : Nanos)
    (network : Connectivity) :
    let verdict := c.evaluate cancelled t network
    let undated := { c with deadline := .forever }.evaluate cancelled t network
    (verdict.isRunnable = true ↔
      cancelled = false ∧ ¬(c.Expired t ∧ c.cancelOnDeadline = true) ∧
        (c.Expired t ∨ c.DelayOver t ∧ c.NetworkMet t network ∧ c.UnmeteredMet t network)) ∧
    (verdict = .cancelled ↔ cancelled = true) ∧
    (verdict = .hitDeadline ↔
      cancelled = false ∧ c.Expired t ∧ c.cancelOnDeadline = true) ∧
    (cancelled = false → ¬(c.Expired t ∧ c.cancelOnDeadline = true) →
      (¬c.Expired t → verdict = undated) ∧
      (c.Expired t → undated = .runnable ∧ verdict = .runnable ∨
        undated.isBlocked = true ∧ verdict = .forcedByDeadline)) ∧
    (∀ wake, verdict = .delayed wake ↔
      cancelled = false ∧ ¬c.Expired t ∧ c.DelayLasts t wake) ∧
    (verdict = .awaitingNetwork ↔
      cancelled = false ∧ ¬c.Expired t ∧ c.DelayOver t ∧ ¬c.NetworkMet t network) ∧
    (verdict = .awaitingUnmetered ↔
      cancelled = false ∧ ¬c.Expired t ∧ c.DelayOver t ∧ c.NetworkMet t network ∧
        ¬c.UnmeteredMet t network) := by
  cases cancelled with
  | true => simp [evaluate, Eligibility.isRunnable]
  | false =>
    simp only [true_and, ← unblocked_iff]
    refine ⟨isRunnable_evaluate_iff, iff_of_false ?_ Bool.false_ne_true,
      evaluate_eq_hitDeadline_iff, fun _ lives => ⟨evaluate_eq_undated, fun expired => ?_⟩,
      fun _ => evaluate_eq_delayed_iff, evaluate_eq_awaitingNetwork_iff,
      evaluate_eq_awaitingUnmetered_iff⟩
    · rw [evaluate_eq_iff]
      nofun
    · exact evaluate_of_lifts expired (by simpa [expired] using lives)

/-- At the very instant of its deadline a job that waits for a network is forced to run, and one
nanosecond earlier it waits; the delay has just passed. -/
theorem evaluate_decides_at_deadline :
    let c : Constraints :=
      { delayUntil := .upTo 9, windows := ⟨.upTo 20, .forever⟩, deadline := .upTo 10 }
    (c.Expired 10 ∧ c.evaluate false 10 .disconnected = .forcedByDeadline) ∧
      (¬c.Expired 9 ∧ c.evaluate false 9 .disconnected = .awaitingNetwork) ∧
      c.evaluate false 9 .disconnected =
        { c with deadline := .forever }.evaluate false 9 .disconnected := by
  intro c
  have expired : c.Expired 10 := by decide
  have early : ¬c.Expired 9 := by decide
  obtain ⟨-, -, -, deadline, -⟩ := c.evaluate_decides false 9 .disconnected
  exact ⟨⟨expired, by decide⟩, ⟨early, by decide⟩, (deadline rfl fun h => early h.1).1 early⟩

end Constraints

end DeferredJobs
