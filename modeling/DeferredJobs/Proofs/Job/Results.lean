import DeferredJobs.Proofs.Job.Refusals
import DeferredJobs.Proofs.Job.Retries

/-!
# What a result does to a job

When a result code is applied, four things may follow, and each of them changes certain fields of
the job and leaves all others alone.

* **What follows** (`Job.followUp`) is up to the code, but that the success of a job that has been
  cancelled counts as a cancellation (`Job.settle_fst`).
* **The flags** (`Job.appliedStatus_of_remove`, `Job.appliedStatus_of_cancel`): a job that leaves
  the storage is successful or cancelled; the flags of one that is sent back stay as they are.
* **The work item** hears of it where it has to learn something (`Job.calls_apply`).

`Job.Constructed.effect_of_result` puts this together, field by field.
-/

namespace DeferredJobs

/-- Nothing but a success has a job removed. -/
theorem ResultCode.followUp_eq_remove_iff {code : ResultCode} {cancelOnDeadline : Bool} :
    code.followUp cancelOnDeadline = .remove ↔ code = .success := by
  cases code <;> cases cancelOnDeadline <;> decide

theorem Status.state_eq_successful_iff {s : Status} :
    s.state = .successful ↔ s.successful = true := by
  rw [state]
  cases s.successful <;> cases s.cancelled <;> simp

namespace Job

variable {ω : Type} {job : Job ω} {code : ResultCode} {reason : CancelReason}

/-! ### What follows -/

/-- What follows a code. A job that has been cancelled is cancelled in spite of its success. -/
def followUp (job : Job ω) (code : ResultCode) : FollowUp :=
  if code = .success ∧ job.status.cancelled = true then .cancel .cancelledWhileRunning
  else code.followUp job.cancelOnDeadline

/-- A success is recorded unless the job has been cancelled. -/
theorem settle_success (job : Job ω) :
    job.settle .success =
      if job.status.cancelled = true then (.cancel .cancelledWhileRunning, job)
      else (.remove, { job with status := { job.status with successful := true } }) := by
  by_cases cancelled : job.status.cancelled = true
  · simp only [settle, ResultCode.followUp, mark, Status.mark, Status.markSuccessful,
      if_pos cancelled, Bool.false_eq_true, if_false]
  · simp only [settle, ResultCode.followUp, mark, Status.mark, Status.markSuccessful,
      if_neg cancelled, if_true]

theorem settle_of_ne_success (failed : code ≠ .success) :
    job.settle code = (code.followUp job.cancelOnDeadline, job) := by
  have other : code.followUp job.cancelOnDeadline ≠ .remove :=
    mt ResultCode.followUp_eq_remove_iff.mp failed
  rw [settle]
  split
  · next remove => exact absurd remove other
  · rfl

theorem settle_fst (job : Job ω) (code : ResultCode) :
    (job.settle code).1 = job.followUp code := by
  rw [followUp]
  by_cases success : code = .success
  · rw [success, settle_success]
    cases job.status.cancelled <;> rfl
  · rw [settle_of_ne_success success, if_neg fun h => success h.1]

/-- A job is removed by a success unless it has been cancelled. -/
theorem followUp_eq_remove_iff :
    job.followUp code = .remove ↔ code = .success ∧ job.status.cancelled = false := by
  rw [followUp]
  split
  · next h => simp [h.2]
  · next h =>
    rw [ResultCode.followUp_eq_remove_iff]
    exact ⟨fun success => ⟨success, by simpa [success] using h⟩, And.left⟩

/-! ### The flags -/

/-- A job that is removed is successful. -/
theorem appliedStatus_of_remove (coherent : job.status.Coherent)
    (h : job.followUp code = .remove) : job.appliedStatus code = JobState.successful.flags := by
  obtain ⟨rfl, lives⟩ := followUp_eq_remove_iff.mp h
  have single : job.status.cancelledSingleId = false :=
    Bool.eq_false_iff.mpr fun single => Bool.eq_false_iff.mp lives (coherent.implied single)
  rw [appliedStatus, settle_success, if_neg (Bool.eq_false_iff.mp lives)]
  simp only [FollowUp.reason?, lives, single, JobState.flags]

/-- A job that is cancelled for good is marked so, unless it has succeeded. -/
theorem appliedStatus_of_cancel (h : job.followUp code = .cancel reason) :
    job.appliedStatus code =
      if job.state = .successful then job.status else { job.status with cancelled := true } := by
  have kept : (job.settle code).2 = job := by
    by_cases success : code = .success
    · obtain rfl := success
      have cancelled : job.status.cancelled = true := by
        rw [← Bool.not_eq_false]
        intro lives
        rw [followUp_eq_remove_iff.mpr ⟨rfl, lives⟩] at h
        contradiction
      rw [settle_success, if_pos cancelled]
    · rw [settle_of_ne_success success]
  rw [appliedStatus, settle_fst, h, kept, FollowUp.reason?]
  dsimp only
  rw [Status.mark, Status.markCancelled, apply_ite Prod.snd]
  simp only [state, Status.state_eq_successful_iff]

/-- A job that is sent back keeps its flags. -/
theorem appliedStatus_of_not_isTerminal (h : (job.followUp code).isTerminal = false) :
    job.appliedStatus code = job.status := by
  rw [← settle_fst] at h
  rw [appliedStatus, FollowUp.reason?_eq_none h, settle_eq_of_not_isTerminal h]

/-! ### Field by field -/

variable [Work ω]

/-- **What a result does, and nothing else.** Take a job that was built or restored, after any
operations, and a code that is applied at any time. The reply is what follows the code.

* A job that is removed is successful.
* A job that is cancelled is marked so unless it had succeeded, and its work item is told the reason
  and the last failure, unless it has been told of a cancellation before.
* A job that is rescheduled has one attempt more, up to the largest number there is, and whatever a
  pending retry constraint names is changed: the delay and the network windows count from now, and
  the work item learns the new priority.
* A job that is run by force has one attempt more, and nothing of what is pending takes effect.

In all four cases nothing is pending afterwards, the work item hears nothing else, and the other
fields stay as they were. -/
theorem Constructed.effect_of_result (made : job.Constructed) (ops : List Operation)
    (code : ResultCode) (now : Nanos) :
    let current := job.performAll ops
    let follows := current.followUp code
    let after := (current.apply code now).2
    let heard (ops : List Operation) := (job.observed.performAll ops).work.calls
    let heardNow := heard (ops ++ [.apply code now])
    let told := (heard ops).any (·.isCancellation)
    (current.apply code now).1 = follows ∧
    (follows = .remove →
      after = { current with status := JobState.successful.flags, retry := none } ∧
      heardNow = heard ops) ∧
    (∀ reason, follows = .cancel reason →
      after = { current with
        status := if current.state = .successful then current.status
          else { current.status with cancelled := true }
        retry := none
        cancelNotified := true
        work := if told then current.work
          else Work.onCancel current.work reason current.lastFailure } ∧
      heardNow = heard ops ++ if told then [] else [.onCancel reason current.lastFailure]) ∧
    (follows = .reschedule →
      let delay := current.retry.bind (·.newDelay)
      let priority := current.retry.bind (·.newPriority)
      let network := current.retry.bind (·.newNetwork)
      ∃ runCount : UInt32, runCount.toNat = min (current.runCount.toNat + 1) (UInt32.size - 1) ∧
      after = { current with
        runCount
        delayUntil := delay.elim current.delayUntil fun d => .upTo (offset now d)
        priority := priority.getD current.priority
        windows := network.elim current.windows fun n => .sealedAt now n.network n.unmetered
        retry := none
        work := priority.elim current.work (Work.setPriority current.work) } ∧
      heardNow = heard ops ++ (priority.map .setPriority).toList) ∧
    (follows = .forceRun →
      ∃ runCount : UInt32, runCount.toNat = min (current.runCount.toNat + 1) (UInt32.size - 1) ∧
      after = { current with runCount, retry := none } ∧ heardNow = heard ops) := by
  intro current follows after heard heardNow told
  have coherent : current.status.Coherent := (made.sound_performAll ops).coherent
  have unnotified : job.cancelNotified = false := made.unnotified.2
  have heard_eq (ops : List Operation) : heard ops = job.calls ops := job.calls_observed ops
  have told_eq : current.cancelNotified = told := by
    rw [show told = (job.calls ops).any (·.isCancellation) by rw [← heard_eq]]
    exact cancelNotified_eq_any_calls unnotified ops
  have heardNow_eq : heardNow = heard ops ++ (current.callOf? (.apply code now)).toList := by
    rw [show heardNow = heard (ops ++ [.apply code now]) from rfl, heard_eq, heard_eq, calls_concat]
  have applied := current.apply_eq code now
  rw [callOf?_apply, retryApplied?, settle_fst] at applied
  rw [callOf?_apply, retryApplied?, settle_fst] at heardNow_eq
  refine ⟨current.settle_fst code, fun h => ?_, fun reason h => ?_, fun h => ?_, fun h => ?_⟩
  · have remove : current.followUp code = .remove := h
    rw [remove] at applied heardNow_eq
    refine ⟨applied.trans ?_, heardNow_eq.trans (List.append_nil _)⟩
    rw [appliedStatus_of_remove coherent remove]
    rfl
  · have cancel : current.followUp code = .cancel reason := h
    rw [cancel] at applied heardNow_eq
    have notice : current.notice? reason =
        if told then none else some (.onCancel reason current.lastFailure) := by
      rw [notice?, told_eq]
    dsimp only [FollowUp.reason?] at applied heardNow_eq
    rw [notice, appliedStatus_of_cancel cancel] at applied
    rw [notice] at heardNow_eq
    refine ⟨applied.trans ?_, heardNow_eq.trans ?_⟩ <;> cases told <;> rfl
  · have reschedule : current.followUp code = .reschedule := h
    rw [reschedule] at applied heardNow_eq
    refine ⟨nextCount current.runCount, toNat_nextCount _, applied.trans ?_, heardNow_eq⟩
    rw [appliedStatus_of_not_isTerminal (congrArg FollowUp.isTerminal reschedule)]
    dsimp only [FollowUp.reason?]
    cases current.retry with
    | none => rfl
    | some r =>
      obtain ⟨retry, delay, priority, network⟩ := r
      cases priority <;> rfl
  · have forceRun : current.followUp code = .forceRun := h
    rw [forceRun] at applied heardNow_eq
    refine ⟨nextCount current.runCount, toNat_nextCount _, applied.trans ?_,
      heardNow_eq.trans (List.append_nil _)⟩
    rw [appliedStatus_of_not_isTerminal (congrArg FollowUp.isTerminal forceRun)]
    rfl

/-- A job that has used up the numbers of its attempts is sent back. What is pending has its effect,
although it says that the job is not to be tried again. -/
theorem effect_of_result_out_of_numbers :
    let r : Record :=
      { id := "sync", persistent := true, priority := 3, groupId := none, runCount := 0xFFFFFFFF
        createdAt := 0, delayUntil := .upTo 7, insertionOrder := some 4, session := ⟨1⟩
        windows := ⟨.never, .never⟩, deadline := .forever, cancelOnDeadline := false
        tags := none, retry := none }
    let asked : RetryConstraint :=
      { retry := false, newPriority := some 9, newNetwork := some ⟨.never, .ofMillis 1⟩ }
    let step : Rehearsal.Step :=
      { code := .tryAgain, failure := some "offline", retry := some (.fixed asked) }
    ∃ job : Job ScriptedWork, restore r ⟨⟨[step], {}, [], 3⟩⟩ = .ok job ∧
      let ran := job.performAll [.run 10]
      let after := (ran.apply .tryAgain 500).2
      (ran.apply .tryAgain 500).1 = .reschedule ∧
      (after.runCount = 0xFFFFFFFF ∧ after.delayUntil = .upTo 7 ∧ after.priority = 9 ∧
        after.windows = ⟨.upTo 1000500, .upTo 1000500⟩ ∧ after.retry = none) ∧
      (after.insertionOrder = some 4 ∧ after.lastFailure = some ⟨"offline"⟩) ∧
      (job.observed.performAll [.run 10, .apply .tryAgain 500]).work.calls =
        (job.observed.performAll [.run 10]).work.calls ++ [.setPriority 9] := by
  intro r asked step
  have accepted : ∃ job : Job ScriptedWork, restore r ⟨⟨[step], {}, [], 3⟩⟩ = .ok job :=
    ⟨_, restore_eq_ok_iff.mpr ⟨by decide, by decide, rfl⟩⟩
  obtain ⟨job, h⟩ := accepted
  have made : job.Constructed := .restored r _ h
  obtain ⟨reply, -, -, sent_back, -⟩ := made.effect_of_result [.run 10] .tryAgain 500
  obtain ⟨-, -, rfl⟩ := restore_eq_ok_iff.mp h
  obtain ⟨count, counted, after_eq, heard⟩ := sent_back rfl
  have full : count = 0xFFFFFFFF := UInt32.toNat_inj.mp counted
  refine ⟨_, h, reply, ?_, ?_, heard⟩
  · rw [after_eq]
    exact ⟨full, rfl, rfl, rfl, rfl⟩
  · rw [after_eq]
    exact ⟨rfl, rfl⟩

end Job

end DeferredJobs
