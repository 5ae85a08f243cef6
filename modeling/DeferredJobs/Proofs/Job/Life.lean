import DeferredJobs.Job.Life
import DeferredJobs.Proofs.Job.Agreement
import DeferredJobs.Proofs.Job.Storage

/-!
# Jobs that have ended

A job ends when it is cancelled or has succeeded, and nothing that happens to it later takes this
back, be it an operation or a restart.

* **Episodes** (`Job.Sound.exists_live`): a job survives any number of restarts, and at the end of
  its life `Job.EvolvesTo` relates it to what it was before.
* **States**: where one job evolves to another, a success stays, and a cancellation stays and gains
  at most the single-id mark.
* **Eligibility** (`Job.eligibility_eq`): the state comes first. The constraints have a say in the
  eligibility of pending jobs only.

`Job.Constructed.ended_for_good` puts this together.
-/

namespace DeferredJobs.Job

variable {ω : Type} {job : Job ω}

/-! ### Episodes -/

/-- What a job remembers beside its record makes no difference to how it evolves. -/
theorem Agrees.evolvesTo {a b : Job ω} (h : a.Agrees b) : a.EvolvesTo b := by
  obtain ⟨profile, status, lastFailure, cancelNotified, work⟩ := b
  obtain ⟨rfl, rfl⟩ := h
  exact .of_free ..

section Episodes

variable [Work ω]

/-- A sound job survives an episode. -/
theorem Sound.exists_undergo (sound : job.Sound) (episode : Episode ω) :
    ∃ later, job.undergo episode = .ok later ∧ job.EvolvesTo later := by
  cases episode with
  | operation op => exact ⟨_, rfl, job.perform_evolvesTo op⟩
  | restart work =>
    obtain ⟨later, restored, record⟩ := sound.restore_toRecord work
    obtain ⟨profile, status⟩ := eq_of_toRecord_eq record
    exact ⟨later, restored, Agrees.evolvesTo ⟨profile, status⟩⟩

/-- **A sound job survives any number of episodes.** -/
theorem Sound.exists_live (sound : job.Sound) (episodes : List (Episode ω)) :
    ∃ later, job.live episodes = .ok later ∧ job.EvolvesTo later := by
  induction episodes generalizing job with
  | nil => exact ⟨job, rfl, .refl job⟩
  | cons episode episodes ih =>
    obtain ⟨next, first, evolved⟩ := sound.exists_undergo episode
    obtain ⟨later, others, evolved'⟩ := ih (evolved.sound sound)
    refine ⟨later, ?_, evolved.trans evolved'⟩
    rw [live, List.foldlM_cons, first]
    exact others

end Episodes

/-! ### States -/

theorem EvolvesTo.state_of_successful {a b : Job ω} (h : a.EvolvesTo b)
    (coherent : a.status.Coherent) (success : a.state = .successful) : b.state = .successful := by
  obtain ⟨marks, trace⟩ := h.status
  exact ((trace.firstMarkDecides coherent).successful_before success).1

/-- The single-id mark of a cancelled job may come later. -/
theorem EvolvesTo.state_of_cancelled {a b : Job ω} (h : a.EvolvesTo b)
    (coherent : a.status.Coherent) {singleId : Bool} (cancelled : a.state = .cancelled singleId) :
    ∃ gained, b.state = .cancelled (singleId || gained) := by
  obtain ⟨marks, trace⟩ := h.status
  exact ⟨_, ((trace.firstMarkDecides coherent).cancelled_before singleId cancelled).1⟩

/-- A cancelled job takes on the single-id mark at any time, although the mark is refused. -/
theorem mark_cancelledSingleId_of_cancelled {singleId : Bool}
    (cancelled : job.state = .cancelled singleId) :
    (job.mark .cancelledSingleId).1 = false ∧
      (job.mark .cancelledSingleId).2.state = .cancelled true := by
  obtain ⟨profile, ⟨isCancelled, isSingleId, successful⟩, lastFailure, notified, work⟩ := job
  cases isCancelled <;> cases successful <;> first | contradiction | exact ⟨rfl, rfl⟩

/-! ### Eligibility -/

variable (t : Nanos) (network : Connectivity)

/-- **The state comes first.** -/
theorem eligibility_eq (job : Job ω) : job.eligibility t network =
    match job.state with
    | .successful => .completed
    | .cancelled _ => .cancelled
    | .pending => job.constraints.evaluate false t network := by
  rw [eligibility, state, Status.state]
  cases job.status.successful with
  | true => rfl
  | false =>
    cases job.status.cancelled with
    | true => rfl
    | false => rfl

variable {t network}

theorem eligibility_of_successful (success : job.state = .successful) :
    job.eligibility t network = .completed := by
  rw [eligibility_eq, success]

theorem eligibility_of_cancelled {singleId : Bool} (cancelled : job.state = .cancelled singleId) :
    job.eligibility t network = .cancelled := by
  rw [eligibility_eq, cancelled]

theorem eligibility_of_pending (pending : job.state = .pending) :
    job.eligibility t network = job.constraints.evaluate false t network := by
  rw [eligibility_eq, pending]

/-- Only a pending job may be started. -/
theorem not_isRunnable_of_ne_pending (ended : job.state ≠ .pending) :
    (job.eligibility t network).isRunnable = false := by
  cases current : job.state with
  | pending => exact absurd current ended
  | cancelled singleId =>
    rw [eligibility_of_cancelled current]
    rfl
  | successful =>
    rw [eligibility_of_successful current]
    rfl

/-! ### For good -/

/-- **What has ended stays ended.** Take a job that was built or restored, at any point of its
life, and whatever happens to it from then on: operations, restarts, and attempts of any work item.
A job that has succeeded stays so, and it is completed for everyone who asks, at any instant and
over any network. A job that is cancelled stays so, and this is what everyone is told; it may gain
the single-id mark, for which it is enough to ask, but it does not lose it. Neither may ever be
started again. -/
theorem Constructed.ended_for_good [Work ω] (made : job.Constructed)
    (before after : List (Episode ω)) :
    ∃ now later, job.live before = .ok now ∧ now.live after = .ok later ∧
      (now.state = .successful → later.state = .successful ∧
        ∀ t network, later.eligibility t network = .completed) ∧
      (∀ singleId, now.state = .cancelled singleId →
        (∃ gained, later.state = .cancelled (singleId || gained)) ∧
        (later.mark .cancelledSingleId).2.state = .cancelled true ∧
        ∀ t network, later.eligibility t network = .cancelled) ∧
      (now.state ≠ .pending →
        ∀ t network, (later.eligibility t network).isRunnable = false) := by
  obtain ⟨now, lived, evolved⟩ := made.sound.exists_live before
  have sound : now.Sound := evolved.sound made.sound
  obtain ⟨later, lived', evolved'⟩ := sound.exists_live after
  have successful (success : now.state = .successful) : later.state = .successful :=
    evolved'.state_of_successful sound.coherent success
  have cancelled {singleId : Bool} (h : now.state = .cancelled singleId) :
      ∃ gained, later.state = .cancelled (singleId || gained) :=
    evolved'.state_of_cancelled sound.coherent h
  refine ⟨now, later, lived, lived', fun success => ?_, fun singleId h => ?_, fun ended => ?_⟩
  · exact ⟨successful success, fun _ _ => eligibility_of_successful (successful success)⟩
  · obtain ⟨gained, state⟩ := cancelled h
    exact ⟨⟨gained, state⟩, (mark_cancelledSingleId_of_cancelled state).2,
      fun _ _ => eligibility_of_cancelled state⟩
  · intro t network
    refine not_isRunnable_of_ne_pending fun pending => ?_
    cases current : now.state with
    | pending => exact ended current
    | cancelled singleId =>
      obtain ⟨gained, state⟩ := cancelled current
      rw [state] at pending
      contradiction
    | successful =>
      rw [successful current] at pending
      contradiction

/-- A job is cancelled before an attempt that asks for another one. It is sent back all the same,
is restored, gains the single-id mark and is run by force once its deadline has passed. -/
theorem ended_for_good_sent_back :
    let r : Record :=
      { id := "sync", persistent := true, priority := 3, groupId := none, runCount := 0
        createdAt := 0, delayUntil := .never, insertionOrder := none, session := ⟨1⟩
        windows := ⟨.never, .never⟩, deadline := .upTo 40, cancelOnDeadline := false
        tags := none, retry := none }
    let again : Rehearsal.Step :=
      { code := .tryAgain
        retry := some (.fixed (RetryConstraint.again.withDelay (.ofMillis 5))) }
    let before : List (Episode ScriptedWork) := [.operation (.mark .cancelled)]
    let after : List (Episode ScriptedWork) :=
      [.operation (.run 20), .operation (.apply .tryAgain 30), .restart ⟨⟨[], {}, [], 3⟩⟩,
        .operation (.mark .cancelledSingleId), .operation (.apply .hitDeadline 50)]
    ∃ job now later : Job ScriptedWork, restore r ⟨⟨[again], {}, [], 3⟩⟩ = .ok job ∧
      job.live before = .ok now ∧ now.live after = .ok later ∧
      now.state = .cancelled false ∧ later.state = .cancelled true ∧
      later.runCount = 2 ∧ later.delayUntil = .upTo 5000030 ∧
      ∀ t network, later.eligibility t network = .cancelled := by
  intro r again before after
  have accepted : ∃ job : Job ScriptedWork, restore r ⟨⟨[again], {}, [], 3⟩⟩ = .ok job := ⟨_, rfl⟩
  obtain ⟨job, h⟩ := accepted
  have made : job.Constructed := .restored r _ h
  obtain ⟨now, later, lived, lived', -, cancelled, -⟩ := made.ended_for_good before after
  obtain rfl := Except.ok.inj h
  obtain rfl := Except.ok.inj lived
  obtain ⟨-, -, told⟩ := cancelled false rfl
  obtain rfl := Except.ok.inj lived'
  exact ⟨_, _, _, h, rfl, rfl, rfl, rfl, rfl, rfl, told⟩

end DeferredJobs.Job
