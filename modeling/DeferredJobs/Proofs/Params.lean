import DeferredJobs.Params
import DeferredJobs.Proofs.Job.Deadline
import DeferredJobs.Work.Rehearsal

/-!
# Parameters are kept

A producer thinks of the time since a job is made, and a job is held back up to instants. So delays
and timeouts become bounds, and what is not asked for becomes a bound without an instant.

* **Bounds** (`Duration.offset_le_iff`, `Timeout.sealedAt_le_iff`): as long as a duration does not
  lead out of the instants, its bound is reached when the duration has passed.
* **Anchoring** (`Params.anchored`): the bounds that parameters set, and in relative terms what has
  to pass before they are reached.
* **Building** (`Params.exists_build`): these bounds are the constraints of the job.

`Params.job_keeps_terms` puts this together: what the job is told is what was asked for.
-/

namespace DeferredJobs

/-! ### Bounds -/

/-- The duration, and the instant it leads to from `now`, are not cut off. -/
def Duration.FitsFrom (d : Duration) (now : Nanos) : Prop :=
  (d.nanos : Int) ≤ Int64.maxValue.toInt ∧ now.toInt + d.nanos ≤ Int64.maxValue.toInt

instance (d : Duration) (now : Nanos) : Decidable (d.FitsFrom now) :=
  inferInstanceAs (Decidable (_ ∧ _))

section Bounds

variable {now t : Nanos} {d : Duration}

theorem Duration.toInt_offset (fits : d.FitsFrom now) :
    (offset now d).toInt = now.toInt + d.nanos := by
  have least : Int64.minValue.toInt ≤ now.toInt := Int64.minValue_le_toInt now
  rw [offset, Int.min_eq_left fits.1, Int64.toInt_ofIntClamp (by omega) fits.2]

theorem Duration.offset_le_iff (fits : d.FitsFrom now) :
    offset now d ≤ t ↔ (d.nanos : Int) ≤ t.toInt - now.toInt := by
  rw [Int64.le_iff_toInt_le, toInt_offset fits]
  omega

namespace Timeout

/-- Whether the condition still holds when `elapsed` nanoseconds have passed. -/
def Lasts (elapsed : Int) : Timeout → Prop
  | never => False
  | forever => True
  | after d => elapsed < d.nanos

instance (elapsed : Int) : (timeout : Timeout) → Decidable (timeout.Lasts elapsed)
  | never => inferInstanceAs (Decidable False)
  | forever => inferInstanceAs (Decidable True)
  | after _ => inferInstanceAs (Decidable (_ < _))

/-- The duration of a timeout that has one. -/
def duration? : Timeout → Option Duration
  | after d => some d
  | never | forever => none

theorem sealedAt_le_iff {timeout : Timeout}
    (fits : ∀ d, timeout.duration? = some d → d.FitsFrom now) :
    timeout.sealedAt now ≤ .upTo t ↔ ¬timeout.Lasts (t.toInt - now.toInt) := by
  cases timeout with
  | never => exact iff_of_true (TimeBound.never_le _) id
  | forever => exact iff_of_false nofun (not_not_intro trivial)
  | after d =>
    rw [sealedAt, TimeBound.upTo_le_upTo, Duration.offset_le_iff (fits d rfl), Lasts, Int.not_lt]

end Timeout

end Bounds

namespace Params

variable {ω : Type} {p : Params} {n t : Nanos}

/-! ### Anchoring -/

/-- Every duration that parameters name. -/
def durations (p : Params) : List Duration :=
  p.delay :: (p.network.duration?.toList ++ p.unmetered.duration?.toList ++
    (p.deadline.map (·.after)).toList)

/-- No duration of the parameters is cut off. -/
def FitsFrom (p : Params) (now : Nanos) : Prop := ∀ d ∈ p.durations, d.FitsFrom now

instance (p : Params) (now : Nanos) : Decidable (p.FitsFrom now) :=
  inferInstanceAs (Decidable (∀ d ∈ _, _))

theorem FitsFrom.of_delay (fits : p.FitsFrom n) : p.delay.FitsFrom n := fits _ List.mem_cons_self

theorem FitsFrom.of_network (fits : p.FitsFrom n) (d : Duration)
    (names : p.network.duration? = some d) : d.FitsFrom n :=
  fits d (by simp [durations, names])

theorem FitsFrom.of_unmetered (fits : p.FitsFrom n) (d : Duration)
    (names : p.unmetered.duration? = some d) : d.FitsFrom n :=
  fits d (by simp [durations, names])

theorem FitsFrom.of_deadline (fits : p.FitsFrom n) {policy : DeadlinePolicy}
    (names : p.deadline = some policy) : policy.after.FitsFrom n :=
  fits _ (by simp [durations, names])

/-- The constraints that parameters set. The network windows have a reading of their own. -/
def anchored (p : Params) (now windowsAt : Nanos) : Constraints :=
  { delayUntil := p.delayUntil now
    windows := .sealedAt windowsAt p.network p.unmetered
    deadline := (p.deadlineFrom now).1
    cancelOnDeadline := (p.deadlineFrom now).2 }

/-- There is a policy, and the job has waited for as long as it names. -/
def Overdue (p : Params) (elapsed : Int) : Prop :=
  ∃ policy ∈ p.deadline, (policy.after.nanos : Int) ≤ elapsed

/-- The job needs an unmetered network. -/
def NeedsUnmetered (p : Params) (elapsed : Int) : Prop := p.unmetered.Lasts elapsed

/-- The job needs a network, be it for its own sake or as an unmetered one. -/
def NeedsNetwork (p : Params) (elapsed : Int) : Prop :=
  p.network.Lasts elapsed ∨ p.unmetered.Lasts elapsed

instance (p : Params) (elapsed : Int) : Decidable (p.Overdue elapsed) :=
  inferInstanceAs (Decidable (∃ _ ∈ _, _))

instance (p : Params) (elapsed : Int) : Decidable (p.NeedsUnmetered elapsed) :=
  inferInstanceAs (Decidable (Timeout.Lasts _ _))

instance (p : Params) (elapsed : Int) : Decidable (p.NeedsNetwork elapsed) :=
  inferInstanceAs (Decidable (_ ∨ _))

theorem expired_anchored_iff (fits : p.FitsFrom n) :
    (p.anchored n n).Expired t ↔ p.Overdue (t.toInt - n.toInt) := by
  rw [Constraints.Expired, anchored, deadlineFrom, Overdue]
  cases policy : p.deadline with
  | none =>
    have unreached : ¬TimeBound.forever ≤ .upTo t :=
      TimeBound.isPending_eq_true_iff.mp (TimeBound.isPending_forever t)
    exact iff_of_false unreached (by simp)
  | some policy' =>
    rw [TimeBound.upTo_le_upTo, Duration.offset_le_iff (fits.of_deadline policy)]
    simp

/-- Whether the deadline ends the job is up to the policy. -/
theorem cancelOnDeadline_anchored {policy : DeadlinePolicy} (names : p.deadline = some policy) :
    (p.anchored n n).cancelOnDeadline = policy.cancel := by
  rw [anchored, deadlineFrom, names]

theorem delayUntil_of_pos (delays : 0 < p.delay.nanos) :
    p.delayUntil n = .upTo (offset n p.delay) := by
  rw [delayUntil, if_neg (by omega)]

/-- A delay of no time has no bound, and is over from the start. -/
theorem delayOver_anchored_iff (fits : p.FitsFrom n) (later : n ≤ t) :
    (p.anchored n n).DelayOver t ↔ (p.delay.nanos : Int) ≤ t.toInt - n.toInt := by
  rw [Constraints.DelayOver, anchored]
  by_cases delays : 0 < p.delay.nanos
  · rw [delayUntil_of_pos delays, TimeBound.upTo_le_upTo, Duration.offset_le_iff fits.of_delay]
  · have none : p.delay.nanos = 0 := by omega
    rw [Int64.le_iff_toInt_le] at later
    rw [delayUntil, if_pos none, none]
    exact iff_of_true (TimeBound.never_le _) (by omega)

theorem unmetered_anchored_le_iff (fits : p.FitsFrom n) :
    (p.anchored n n).windows.unmetered ≤ .upTo t ↔ ¬p.NeedsUnmetered (t.toInt - n.toInt) :=
  Timeout.sealedAt_le_iff fits.of_unmetered

/-- The network window is raised to cover the unmetered one, so it ends when both timeouts have. -/
theorem network_anchored_le_iff (fits : p.FitsFrom n) :
    (p.anchored n n).windows.network ≤ .upTo t ↔ ¬p.NeedsNetwork (t.toInt - n.toInt) := by
  rw [NeedsNetwork, not_or, ← Timeout.sealedAt_le_iff fits.of_network,
    ← Timeout.sealedAt_le_iff fits.of_unmetered]
  exact Std.max_le_iff

theorem networkMet_anchored_iff (fits : p.FitsFrom n) {network : Connectivity} :
    (p.anchored n n).NetworkMet t network ↔
      (p.NeedsNetwork (t.toInt - n.toInt) → network ≠ .disconnected) := by
  rw [Constraints.NetworkMet, network_anchored_le_iff fits, Classical.or_iff_not_imp_left,
    Classical.not_not]

theorem unmeteredMet_anchored_iff (fits : p.FitsFrom n) {network : Connectivity} :
    (p.anchored n n).UnmeteredMet t network ↔
      (p.NeedsUnmetered (t.toInt - n.toInt) → network = .unmetered) := by
  rw [Constraints.UnmeteredMet, unmetered_anchored_le_iff fits, Classical.or_iff_not_imp_left,
    Classical.not_not]

/-! ### Building -/

/-- **Building.** Parameters lack an id and a work item only. The job that they make with these has
the bounds that the parameters set at two readings of the clock, and it is pending. -/
theorem exists_build {κ : Type} [Clock κ] [Work ω] (p : Params) {id : String} (named : id ≠ "")
    (clock : κ) (session : SessionId) (work : ω) :
    ∃ job, ((p.toBuilder ω id clock session).1.withWork work).build = .ok job ∧
      job.constraints =
        p.anchored (Clock.read clock).1 (Clock.read (Clock.read clock).2).1 ∧
      job.state = .pending := by
  refine ⟨_, Builder.build_of_complete rfl named rfl, ?_, rfl⟩
  -- the windows are in order when they are sealed, so that building does not raise them again
  exact congrArg (Constraints.mk _ · _ _)
    (NetworkWindows.covering_eq_self (NetworkWindows.covers_sealedAt ..))

/-! ### The terms -/

/-- What the job is told at `t` over a network is what parameters that were anchored at `n` ask for
when `elapsed` nanoseconds have passed since. -/
structure KeepsTerms (p : Params) (n : Nanos) (elapsed : Int) (job : Job ω) (t : Nanos)
    (network : Connectivity) : Prop where
  deadlineReached_iff : job.constraints.deadlineReached t = true ↔ p.Overdue elapsed
  requiresNetwork_iff : job.constraints.requiresNetwork t = true ↔ p.NeedsNetwork elapsed
  requiresUnmetered_iff : job.constraints.requiresUnmetered t = true ↔ p.NeedsUnmetered elapsed
  /-- A policy that cancels ends an overdue job. -/
  ended {policy : DeadlinePolicy} (names : p.deadline = some policy)
    (reached : (policy.after.nanos : Int) ≤ elapsed) (cancels : policy.cancel = true) :
    job.eligibility t network = .hitDeadline
  /-- Any other policy has an overdue job run. -/
  forced {policy : DeadlinePolicy} (names : p.deadline = some policy)
    (reached : (policy.after.nanos : Int) ≤ elapsed) (lifts : policy.cancel = false) :
    (job.eligibility t network).isRunnable = true
  delayed (early : ¬p.Overdue elapsed) (waits : elapsed < p.delay.nanos) :
    ∃ wake : Nanos, wake.toInt = n.toInt + p.delay.nanos ∧
      job.eligibility t network = .delayed wake
  awaitingNetwork (early : ¬p.Overdue elapsed) (delay : (p.delay.nanos : Int) ≤ elapsed)
    (needed : p.NeedsNetwork elapsed) (lacks : network = .disconnected) :
    job.eligibility t network = .awaitingNetwork
  awaitingUnmetered (early : ¬p.Overdue elapsed) (delay : (p.delay.nanos : Int) ≤ elapsed)
    (met : p.NeedsNetwork elapsed → network ≠ .disconnected)
    (needed : p.NeedsUnmetered elapsed) (lacks : network ≠ .unmetered) :
    job.eligibility t network = .awaitingUnmetered
  runnable (early : ¬p.Overdue elapsed) (delay : (p.delay.nanos : Int) ≤ elapsed)
    (met : p.NeedsNetwork elapsed → network ≠ .disconnected)
    (metUnmetered : p.NeedsUnmetered elapsed → network = .unmetered) :
    job.eligibility t network = .runnable

/-- A pending job with the bounds of the parameters keeps their terms. -/
theorem keepsTerms_of_constraints {job : Job ω} {network : Connectivity} (fits : p.FitsFrom n)
    (later : n ≤ t) (anchored : job.constraints = p.anchored n n) (pending : job.state = .pending) :
    p.KeepsTerms n (t.toInt - n.toInt) job t network := by
  have told {e : Eligibility} (decides : (p.anchored n n).Decides t network e) :
      job.eligibility t network = e := by
    rw [Job.eligibility_of_pending pending, anchored, decides.evaluate_eq]
  have expired : (p.anchored n n).Expired t ↔ p.Overdue (t.toInt - n.toInt) :=
    expired_anchored_iff fits
  have delayOver : (p.anchored n n).DelayOver t ↔ (p.delay.nanos : Int) ≤ t.toInt - n.toInt :=
    delayOver_anchored_iff fits later
  have met : (p.anchored n n).NetworkMet t network ↔
      (p.NeedsNetwork (t.toInt - n.toInt) → network ≠ .disconnected) :=
    networkMet_anchored_iff fits
  have metUnmetered : (p.anchored n n).UnmeteredMet t network ↔
      (p.NeedsUnmetered (t.toInt - n.toInt) → network = .unmetered) :=
    unmeteredMet_anchored_iff fits
  constructor
  case deadlineReached_iff => rw [Constraints.deadlineReached_iff, anchored, expired]
  case requiresNetwork_iff =>
    rw [Constraints.requiresNetwork, TimeBound.isPending_eq_true_iff, anchored,
      network_anchored_le_iff fits, Classical.not_not]
  case requiresUnmetered_iff =>
    rw [Constraints.requiresUnmetered, TimeBound.isPending_eq_true_iff, anchored,
      unmetered_anchored_le_iff fits, Classical.not_not]
  case ended =>
    intro policy names reached cancels
    have ends : (p.anchored n n).cancelOnDeadline = true :=
      (cancelOnDeadline_anchored names).trans cancels
    exact told (.hitDeadline (expired.mpr ⟨policy, names, reached⟩) ends)
  case forced =>
    intro policy names reached lifts
    rw [Job.eligibility_of_pending pending, anchored]
    exact Constraints.isRunnable_evaluate_of_lifts (expired.mpr ⟨policy, names, reached⟩)
      ((cancelOnDeadline_anchored names).trans lifts)
  case delayed =>
    intro early waits
    have wake : (offset n p.delay).toInt = n.toInt + p.delay.nanos :=
      Duration.toInt_offset fits.of_delay
    have delays : 0 < p.delay.nanos := by
      rw [Int64.le_iff_toInt_le] at later
      omega
    have ahead : t < offset n p.delay := by
      rw [Int64.lt_iff_toInt_lt, wake]
      omega
    exact ⟨_, wake, told (.delayed (mt expired.mp early) (.inl ⟨delayUntil_of_pos delays, ahead⟩))⟩
  case awaitingNetwork =>
    intro early delay needed lacks
    exact told (.awaitingNetwork (mt expired.mp early) (delayOver.mpr delay)
      fun h => met.mp h needed lacks)
  case awaitingUnmetered =>
    intro early delay connected needed lacks
    exact told (.awaitingUnmetered (mt expired.mp early) (delayOver.mpr delay) (met.mpr connected)
      fun h => lacks (metUnmetered.mp h needed))
  case runnable =>
    intro early delay connected unmetered
    exact told (.runnable (fun ends => early (expired.mp ends.1))
      ⟨delayOver.mpr delay, met.mpr connected, metUnmetered.mpr unmetered⟩)

/-- **Parameters are kept.** Take parameters that are anchored to a clock which shows `n` all the
while, none of whose durations is cut off. With an id and a work item they make a job, and from `n`
on, over any network, the job is told what its parameters ask for in terms of the time that has
passed since. -/
theorem job_keeps_terms {κ : Type} [Clock κ] [Work ω] (p : Params) {id : String} (named : id ≠ "")
    (clock : κ) (session : SessionId) (work : ω) (first : (Clock.read clock).1 = n)
    (second : (Clock.read (Clock.read clock).2).1 = n) (fits : p.FitsFrom n) :
    ∃ job, ((p.toBuilder ω id clock session).1.withWork work).build = .ok job ∧
      ∀ t network, n ≤ t → p.KeepsTerms n (t.toInt - n.toInt) job t network := by
  obtain ⟨job, built, constraints, pending⟩ := exists_build p named clock session work
  rw [first, second] at constraints
  exact ⟨job, built, fun t network later =>
    keepsTerms_of_constraints fits later constraints pending⟩

/-- A job is to wait for 5 ms and for an unmetered network for 10 ms, and is to run after 40 ms at
the latest. Nobody asked for a network, yet the job waits for one as it needs an unmetered one. -/
theorem job_keeps_terms_unmetered :
    let p : Params :=
      { delay := .ofMillis 5, unmetered := .ofMillis 10, deadline := some ⟨.ofMillis 40, false⟩ }
    ∃ job : Job ScriptedWork,
      ((p.toBuilder ScriptedWork "sync" (ManualClock.mk 7) ⟨1⟩).1.withWork ⟨⟨[], {}, [], 3⟩⟩).build =
        .ok job ∧
      (∃ wake : Nanos, wake.toInt = 5000007 ∧ job.eligibility 5000006 .unmetered = .delayed wake) ∧
      job.eligibility 5000007 .disconnected = .awaitingNetwork ∧
      job.eligibility 5000007 .metered = .awaitingUnmetered ∧
      job.eligibility 10000007 .disconnected = .runnable ∧
      job.constraints.deadlineReached 40000006 = false ∧
      (job.eligibility 40000007 .disconnected).isRunnable = true := by
  intro p
  have fits : p.FitsFrom 7 := by decide
  obtain ⟨job, built, keeps⟩ := p.job_keeps_terms (by decide : "sync" ≠ "") (ManualClock.mk 7) ⟨1⟩
    (⟨⟨[], {}, [], 3⟩⟩ : ScriptedWork) rfl rfl fits
  refine ⟨job, built, ?_, ?_, ?_, ?_, ?_, ?_⟩
  · obtain ⟨wake, reads, told⟩ :=
      (keeps 5000006 .unmetered (by decide)).delayed (by decide) (by decide)
    exact ⟨wake, reads.trans (by decide), told⟩
  · exact (keeps _ _ (by decide)).awaitingNetwork (by decide) (by decide) (by decide) rfl
  · exact (keeps _ _ (by decide)).awaitingUnmetered (by decide) (by decide) (by decide) (by decide)
      (by decide)
  · exact (keeps _ _ (by decide)).runnable (by decide) (by decide) (by decide) (by decide)
  · rw [← Bool.not_eq_true, (keeps _ .disconnected (by decide)).deadlineReached_iff]
    decide
  · exact (keeps _ _ (by decide)).forced rfl (by decide) rfl

end Params

end DeferredJobs
