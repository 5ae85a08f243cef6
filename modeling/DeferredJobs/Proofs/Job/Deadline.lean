import DeferredJobs.Proofs.Constraints.Progress
import DeferredJobs.Proofs.Job.Life

/-!
# Jobs past their deadline

The deadline of a job, and what it is for, stay for as long as the job lives. A retry may delay the
job and ask for a network, but it comes too late once the deadline has passed.

* **One instant** (`Constraints.evaluate_of_ends`, `Constraints.isRunnable_evaluate_of_lifts`):
  whatever else the constraints say, a deadline that has passed decides.
* **A life** (`Job.Constructed.deadline_decides`): so it decides at each later instant, whatever
  happens to the job meanwhile.
-/

namespace DeferredJobs

namespace Constraints

variable {c : Constraints} {t : Nanos} {network : Connectivity}

/-- A deadline that ends the job has the last word. -/
theorem evaluate_of_ends (expired : c.Expired t) (ends : c.cancelOnDeadline = true) :
    c.evaluate false t network = .hitDeadline :=
  evaluate_eq_hitDeadline_iff.mpr ⟨expired, ends⟩

/-- A deadline that does not end the job lifts whatever holds it back. -/
theorem isRunnable_evaluate_of_lifts (expired : c.Expired t) (lifts : c.cancelOnDeadline = false) :
    (c.evaluate false t network).isRunnable = true := by
  refine isRunnable_evaluate_iff.mpr ⟨fun ended => ?_, .inl expired⟩
  rw [lifts] at ended
  exact Bool.false_ne_true ended.2

/-- A job is run by force only if its deadline does not end it. -/
theorem lifts_of_evaluate_eq (forced : c.evaluate false t network = .forcedByDeadline) :
    c.cancelOnDeadline = false := by
  cases evaluate_eq_iff.mp forced with
  | forcedByDeadline expired lifts blocked => exact lifts

end Constraints

namespace Job

variable {ω : Type} {job : Job ω} {t : Nanos} {network : Connectivity}

/-- What is said of the deadline is said of a pending job. -/
theorem eq_evaluate_of_deadline {e : Eligibility} (h : job.eligibility t network = e)
    (verdict : e = .hitDeadline ∨ e = .forcedByDeadline) :
    job.constraints.evaluate false t network = e := by
  rw [eligibility_eq] at h
  cases current : job.state with
  | pending => rwa [current] at h
  | cancelled | successful =>
    rw [current] at h
    subst h
    simp at verdict

/-- Past a deadline that ends the job, nobody may start it. -/
theorem not_isRunnable_of_ends (expired : job.constraints.Expired t)
    (ends : job.cancelOnDeadline = true) : (job.eligibility t network).isRunnable = false := by
  by_cases pending : job.state = .pending
  · rw [eligibility_of_pending pending, Constraints.evaluate_of_ends expired ends]
    rfl
  · exact not_isRunnable_of_ne_pending pending

/-- **The deadline decides.** Take a job that was built or restored, an instant at or after its
deadline, and whatever happens to the job, restarts included. Its deadline stays as it was, and so
does what the deadline is for. At the instant and at any later one, over any network: if the
deadline ends the job, the job may not be started, and as long as it is pending it is told that it
hit its deadline; if not, the job may be started as long as it is pending. At no instant at all is
a job told both, that it hit its deadline and that its deadline forces a run. -/
theorem Constructed.deadline_decides [Work ω] (made : job.Constructed) {t t' : Nanos}
    (expired : job.deadline ≤ .upTo t) (later : t ≤ t') (episodes : List (Episode ω)) :
    ∃ now, job.live episodes = .ok now ∧
      (now.deadline = job.deadline ∧ now.cancelOnDeadline = job.cancelOnDeadline) ∧
      (job.cancelOnDeadline = true → ∀ network,
        (now.eligibility t' network).isRunnable = false ∧
        (now.state = .pending → now.eligibility t' network = .hitDeadline)) ∧
      (job.cancelOnDeadline = false → now.state = .pending → ∀ network,
        (now.eligibility t' network).isRunnable = true) ∧
      ∀ s network,
        (now.eligibility s network = .hitDeadline → job.cancelOnDeadline = true) ∧
        (now.eligibility s network = .forcedByDeadline → job.cancelOnDeadline = false) := by
  obtain ⟨now, lived, evolved⟩ := made.sound.exists_live episodes
  have passed : now.constraints.Expired t' := by
    have kept : now.constraints.Expired t := by
      rw [Constraints.Expired, Profile.constraints, evolved.deadline]
      exact expired
    exact kept.mono later
  rw [← evolved.cancelOnDeadline, ← evolved.deadline]
  refine ⟨now, lived, ⟨rfl, rfl⟩, fun ends network => ⟨?_, fun pending => ?_⟩,
    fun lifts pending network => ?_, fun s network => ⟨fun hit => ?_, fun forced => ?_⟩⟩
  · exact not_isRunnable_of_ends passed ends
  · rw [eligibility_of_pending pending]
    exact Constraints.evaluate_of_ends passed ends
  · rw [eligibility_of_pending pending]
    exact Constraints.isRunnable_evaluate_of_lifts passed lifts
  · exact (Constraints.evaluate_eq_hitDeadline_iff.mp (eq_evaluate_of_deadline hit (.inl rfl))).2
  · exact Constraints.lifts_of_evaluate_eq (eq_evaluate_of_deadline forced (.inr rfl))

/-- At its deadline a job fails and asks to be delayed and to wait for an unmetered network; it is
sent back and restored, and then it may be started over no network at all. -/
theorem deadline_decides_after_retry :
    let r : Record :=
      { id := "sync", persistent := true, priority := 3, groupId := none, runCount := 0
        createdAt := 0, delayUntil := .never, insertionOrder := none, session := ⟨1⟩
        windows := ⟨.never, .never⟩, deadline := .upTo 40, cancelOnDeadline := false
        tags := none, retry := none }
    let later : RetryConstraint :=
      { retry := true, newDelay := some (.ofMillis 5), newNetwork := some ⟨.never, .forever⟩ }
    let again : Rehearsal.Step := { code := .tryAgain, retry := some (.fixed later) }
    let episodes : List (Episode ScriptedWork) :=
      [.operation (.run 40), .operation (.apply .tryAgain 41), .restart ⟨⟨[], {}, [], 3⟩⟩,
        .operation (.setPriority 1)]
    ∃ job now : Job ScriptedWork, restore r ⟨⟨[again], {}, [], 3⟩⟩ = .ok job ∧
      job.deadline ≤ .upTo 40 ∧ (40 : Nanos) ≤ 42 ∧ job.live episodes = .ok now ∧
      now.delayUntil = .upTo 5000041 ∧ now.windows = ⟨.forever, .forever⟩ ∧
      now.eligibility 39 .disconnected = .delayed 5000041 ∧
      (now.eligibility 42 .disconnected).isRunnable = true := by
  intro r later again episodes
  have accepted : ∃ job : Job ScriptedWork, restore r ⟨⟨[again], {}, [], 3⟩⟩ = .ok job := ⟨_, rfl⟩
  obtain ⟨job, h⟩ := accepted
  have made : job.Constructed := .restored r _ h
  obtain rfl := Except.ok.inj h
  have ordered : (40 : Nanos) ≤ 42 := by decide
  obtain ⟨now, lived, -, -, forced, -⟩ := made.deadline_decides (Std.le_refl _) ordered episodes
  obtain rfl := Except.ok.inj lived
  exact ⟨_, _, h, Std.le_refl _, ordered, rfl, rfl, rfl, rfl, forced rfl rfl .disconnected⟩

end Job

end DeferredJobs
