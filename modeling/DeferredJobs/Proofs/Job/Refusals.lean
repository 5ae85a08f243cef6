import DeferredJobs.Proofs.Job.Cancellation
import DeferredJobs.Proofs.Job.Invariants

/-!
# Cancellations that are refused

A job that has succeeded refuses to be cancelled: its flags stay as they are, and the mark is
answered with no. `cancelAsDuplicate` and `apply` make the mark and do not ask for the answer; they
tell the work item in any case.

* **Marks**: a mark that cancels leads to a cancelled state from every state but success, which it
  leaves alone (`JobState.after_of_ne_successful`).
* **One operation**: such a mark is all that happens to the flags before the work item is told
  (`Job.exists_told`). If the job has succeeded, request and reply are as if the mark had been
  accepted (`Job.isSome_cancelRequest?_of_successful`).

So the work item of a job is told of a cancellation that took place, but for a job that has
succeeded: `Job.Constructed.cancelled_when_told_iff` says when this happens, and
`Job.told_while_successful` that it does.
-/

namespace DeferredJobs

/-! ### Marks -/

/-- A mark that cancels takes effect unless the job has succeeded. -/
theorem JobState.after_of_ne_successful {j : JobState} {m : Mark} (cancels : m ≠ .successful) :
    ((∃ singleId, j.after m = .cancelled singleId) ↔ j ≠ .successful) ∧
      (j.after m = .successful ↔ j = .successful) := by
  cases j <;> cases m <;> simp [JobState.after] at cancels ⊢

theorem FollowUp.reason?_eq_some {f : FollowUp} {reason : CancelReason} :
    f.reason? = some reason ↔ f = .cancel reason := by
  cases f <;> simp [FollowUp.reason?]

/-- Whether an operation cancels a job that has succeeded, as far as its reply and its work item
can tell. -/
def Operation.cancels (cancelOnDeadline : Bool) : Operation → Bool
  | cancelAsDuplicate => true
  | apply code _ => (code.followUp cancelOnDeadline).reason?.isSome
  | _ => false

namespace Job

variable {ω : Type} {job : Job ω} {code : ResultCode} {reason : CancelReason}

theorem state_mark (coherent : job.status.Coherent) (m : Mark) :
    (job.mark m).2.state = job.state.after m := by
  rw [state, state, mark, ← coherent.flags_state, Status.mark_flags, JobState.state_flags,
    JobState.state_flags]

/-! ### One operation -/

/-- A success is recorded again where there is one. -/
theorem settle_of_successful (coherent : job.status.Coherent) (success : job.state = .successful) :
    (job.settle code).1 = code.followUp job.cancelOnDeadline := by
  have flags : job.status = JobState.successful.flags := by
    rw [← success, state, coherent.flags_state]
  rw [settle]
  split
  · next remove =>
    rw [remove, mark, flags]
    rfl
  · rfl

/-- A code that cancels a job leaves the flags to be marked. -/
theorem state_settle_of_cancel (coherent : job.status.Coherent)
    (h : (job.settle code).1 = .cancel reason) : (job.settle code).2.state = job.state := by
  rw [settle] at h ⊢
  split at h
  · -- the job was cancelled before its success could be recorded
    dsimp only at h ⊢
    split at h
    · contradiction
    · next refused =>
      rw [state_mark coherent]
      rw [mark, ← coherent.flags_state, Status.mark_flags] at refused
      cases current : job.state with
      | cancelled singleId => simp [JobState.after]
      | pending | successful => exact absurd (congrArg (·.takes .successful) current) refused
  · rfl

variable [Work ω] {op : Operation} {now : Nanos} {failure : Option Failure}

/-- Telling the work item leaves the flags alone. -/
theorem state_onCancel (job : Job ω) (reason : CancelReason) :
    (job.onCancel reason).state = job.state := by
  rw [onCancel_eq, state, state]

/-- Where the reply is to cancel, the job is marked so and its work item is told. -/
theorem apply_of_cancel (h : (job.apply code now).1 = .cancel reason) :
    (job.apply code now).2 =
      (({ (job.settle code).2 with retry := none } : Job ω).mark .cancelled).2.onCancel reason := by
  have settled : (job.settle code).1 = .cancel reason := h
  rw [apply]
  dsimp only
  rw [settled]

/-- **Before its work item is told**, a job gets a mark that cancels. Whether the job accepts it
does not matter. -/
theorem exists_told (coherent : job.status.Coherent) (indirect : ∀ reason, op ≠ .onCancel reason)
    (request : cancelRequest? (op, (job.perform op).1) = some reason) :
    ∃ told : Job ω, told.cancelNotified = job.cancelNotified ∧
      (job.perform op).2 = told.onCancel reason ∧
        ∃ m, m ≠ .successful ∧ told.state = job.state.after m := by
  cases op with
  | onCancel r => exact absurd rfl (indirect r)
  | cancelAsDuplicate =>
    obtain rfl := Option.some.inj request
    exact ⟨(job.mark .cancelledSingleId).2, rfl, rfl, .cancelledSingleId, nofun,
      state_mark coherent _⟩
  | apply code now =>
    have answer : (job.apply code now).1 = .cancel reason := FollowUp.reason?_eq_some.mp request
    let settled : Job ω := { (job.settle code).2 with retry := none }
    have kept : settled.status.Coherent := by
      obtain ⟨marks, trace⟩ := (job.settle_evolvesTo code).status
      exact trace.coherent coherent
    have state : settled.state = job.state := state_settle_of_cancel coherent answer
    have notified : (job.settle code).2.cancelNotified = job.cancelNotified := by rw [settle_eq]
    exact ⟨(settled.mark .cancelled).2, notified, apply_of_cancel answer, .cancelled, nofun,
      state ▸ state_mark kept .cancelled⟩
  | _ => contradiction

/-- A job that has succeeded refuses to be cancelled, and yet its work item is to be told. -/
theorem isSome_cancelRequest?_of_successful (coherent : job.status.Coherent)
    (success : job.state = .successful) (indirect : ∀ reason, op ≠ .onCancel reason) :
    (cancelRequest? (op, (job.perform op).1)).isSome = op.cancels job.cancelOnDeadline := by
  cases op with
  | onCancel r => exact absurd rfl (indirect r)
  | apply code now =>
    exact congrArg (fun f : FollowUp => f.reason?.isSome) (settle_of_successful coherent success)
  | _ => rfl

/-- A code is answered with a cancellation that does not take place if the job has succeeded. -/
theorem successful_after_cancel_iff (coherent : job.status.Coherent) :
    (∃ reason, (job.apply code now).1 = .cancel reason) ∧
        (job.apply code now).2.state = .successful ↔
      job.state = .successful ∧ (Operation.apply code now).cancels job.cancelOnDeadline = true := by
  have indirect (reason : CancelReason) : Operation.apply code now ≠ .onCancel reason := nofun
  have final {reason : CancelReason} (answer : (job.apply code now).1 = .cancel reason) :
      (job.apply code now).2.state = .successful ↔ job.state = .successful := by
    obtain ⟨told, -, after, m, cancels, state⟩ :=
      exists_told coherent indirect (FollowUp.reason?_eq_some.mpr answer)
    have same : (job.apply code now).2 = told.onCancel reason := after
    rw [same, state_onCancel, state]
    exact (JobState.after_of_ne_successful cancels).2
  have answered (success : job.state = .successful) :
      (Operation.apply code now).cancels job.cancelOnDeadline = true ↔
        ∃ reason, (job.apply code now).1 = .cancel reason := by
    rw [← isSome_cancelRequest?_of_successful coherent success indirect, Option.isSome_iff_exists]
    exact exists_congr fun _ => FollowUp.reason?_eq_some
  constructor
  · rintro ⟨⟨reason, answer⟩, success⟩
    have before : job.state = .successful := (final answer).mp success
    exact ⟨before, (answered before).mpr ⟨reason, answer⟩⟩
  · rintro ⟨success, cancels⟩
    obtain ⟨reason, answer⟩ := (answered success).mp cancels
    exact ⟨⟨reason, answer⟩, (final answer).mpr success⟩

/-! ### Histories -/

/-- One operation more, and one call more. -/
theorem calls_concat_eq_iff {ops : List Operation} {c : Call} :
    job.calls (ops ++ [op]) = job.calls ops ++ [c] ↔
      (job.performAll ops).callOf? op = some c := by
  rw [calls_concat, List.append_cancel_left_eq]
  cases (job.performAll ops).callOf? op <;> simp

/-- A job knows whether its work item has been told. -/
theorem cancelNotified_eq_false_iff (unnotified : job.cancelNotified = false)
    (ops : List Operation) :
    (job.performAll ops).cancelNotified = false ↔
      ∀ c ∈ job.calls ops, c.isCancellation = false := by
  have counted := job.countP_calls ops
  rw [unnotified, Bool.not_false, Bool.true_and] at counted
  simp only [← Bool.not_eq_true]
  rw [← List.countP_eq_zero, counted, cancelNotified_performAll, unnotified, Bool.or_false]
  simp

/-- The same as an equation. -/
theorem cancelNotified_eq_any_calls (unnotified : job.cancelNotified = false)
    (ops : List Operation) :
    (job.performAll ops).cancelNotified = (job.calls ops).any (·.isCancellation) := by
  have silent : (job.calls ops).any (·.isCancellation) = false ↔
      ∀ c ∈ job.calls ops, c.isCancellation = false := by simp
  have same := (cancelNotified_eq_false_iff unnotified ops).trans silent.symm
  exact Bool.eq_iff_iff.mpr (by simpa using not_congr same)

/-- **A work item is told that its job was cancelled, and the job has succeeded.** Take a job that
was built or restored, any operations, and one more that does not tell the work item by itself. If
the work item is told of a cancellation then, the job is cancelled at this moment unless it had
succeeded before. Of a job that has succeeded, the work item is told when the job is dropped as a
duplicate and when a code is applied that cancels, unless it has been told before; and such a code
is answered with a cancellation although the job stays successful. -/
theorem Constructed.cancelled_when_told_iff (made : job.Constructed) (ops : List Operation)
    (op : Operation) (indirect : ∀ reason, op ≠ .onCancel reason) :
    let heard (ops : List Operation) := (job.observed.performAll ops).work.calls
    let current := job.performAll ops
    (∀ reason failure, heard (ops ++ [op]) = heard ops ++ [.onCancel reason failure] →
      ∃ told : Job ω, told.cancelNotified = false ∧
        (current.perform op).2 = told.onCancel reason ∧
        ((∃ singleId, told.state = .cancelled singleId) ↔ current.state ≠ .successful)) ∧
    (current.state = .successful →
      ((∃ reason failure, heard (ops ++ [op]) = heard ops ++ [.onCancel reason failure]) ↔
        (∀ c ∈ heard ops, c.isCancellation = false) ∧
          op.cancels job.cancelOnDeadline = true)) ∧
    (∀ code now, op = .apply code now →
      ((∃ reason, (current.apply code now).1 = .cancel reason) ∧
          (current.apply code now).2.state = .successful ↔
        current.state = .successful ∧ op.cancels job.cancelOnDeadline = true)) := by
  intro heard current
  have heard_eq (ops : List Operation) : heard ops = job.calls ops := job.calls_observed ops
  have coherent : current.status.Coherent := (made.sound_performAll ops).coherent
  have same : current.cancelOnDeadline = job.cancelOnDeadline :=
    (job.performAll_evolvesTo ops).cancelOnDeadline
  simp only [heard_eq, calls_concat_eq_iff, ← same]
  refine ⟨fun reason failure h => ?_, fun success => ?_, ?_⟩
  · obtain ⟨request, untold, -⟩ := callOf?_eq_onCancel_iff.mp h
    obtain ⟨told, notified, after, m, cancels, state⟩ := exists_told coherent indirect request
    refine ⟨told, notified.trans untold, after, ?_⟩
    rw [state]
    exact (JobState.after_of_ne_successful cancels).1
  · have untold : current.cancelNotified = false ↔ _ :=
      cancelNotified_eq_false_iff made.unnotified.2 ops
    rw [← untold, ← isSome_cancelRequest?_of_successful coherent success indirect,
      Option.isSome_iff_exists]
    simp only [callOf?_eq_onCancel_iff]
    constructor
    · rintro ⟨reason, failure, request, first, -⟩
      exact ⟨first, reason, request⟩
    · rintro ⟨first, reason, request⟩
      exact ⟨reason, _, request, first, rfl⟩
  · rintro code now rfl
    exact successful_after_cancel_iff coherent

/-- A job that is restored after its success and claimed by a new session, before a late result is
applied. -/
theorem cancelled_when_told_iff_late_result :
    let r : Record :=
      { id := "sync", persistent := true, priority := 3, groupId := none, runCount := 2
        createdAt := 0, delayUntil := .never, insertionOrder := some 4, session := ⟨1⟩
        windows := ⟨.never, .never⟩, deadline := .upTo 9, cancelOnDeadline := true
        tags := none, retry := none, successful := true }
    let ops : List Operation := [.setSession ⟨2⟩]
    ∃ job : Job ScriptedWork, restore r ⟨⟨[], {}, [], 3⟩⟩ = .ok job ∧
      (job.performAll ops).state = .successful ∧
      (∃ reason failure, (job.observed.performAll (ops ++ [.apply .hitDeadline 12])).work.calls =
        (job.observed.performAll ops).work.calls ++ [.onCancel reason failure]) ∧
      ∃ reason, ((job.performAll ops).apply .hitDeadline 12).1 = .cancel reason := by
  intro r ops
  have accepted : ∃ job : Job ScriptedWork, restore r ⟨⟨[], {}, [], 3⟩⟩ = .ok job :=
    ⟨_, restore_eq_ok_iff.mpr ⟨by decide, by decide, rfl⟩⟩
  obtain ⟨job, h⟩ := accepted
  have made : job.Constructed := .restored r _ h
  obtain ⟨-, told, answered⟩ := made.cancelled_when_told_iff ops (.apply .hitDeadline 12) nofun
  obtain ⟨-, -, rfl⟩ := restore_eq_ok_iff.mp h
  exact ⟨_, h, rfl, (told rfl).mpr ⟨by decide, rfl⟩, ((answered _ _ rfl).mpr ⟨rfl, rfl⟩).1⟩

/-- The work item of a job that has succeeded is told that the job was dropped as a duplicate. In
the same way it is told when a code is applied that ends a job, and the reply is to cancel. -/
theorem told_while_successful :
    let r : Record :=
      { id := "sync", persistent := true, priority := 3, groupId := none, runCount := 0
        createdAt := 0, delayUntil := .never, insertionOrder := none, session := ⟨1⟩
        windows := ⟨.never, .never⟩, deadline := .forever, cancelOnDeadline := false
        tags := none, retry := none }
    let ops : List Operation := [.run 0, .apply .success 0]
    ∃ job : Job ScriptedWork, restore r ⟨⟨[{}], {}, [], 3⟩⟩ = .ok job ∧ job.Constructed ∧
      let heard (ops : List Operation) := (job.observed.performAll ops).work.calls
      ((job.performAll (ops ++ [.cancelAsDuplicate])).state = .successful ∧
        heard (ops ++ [.cancelAsDuplicate]) =
          heard ops ++ [.onCancel .singleInstanceQueued none]) ∧
      ((job.performAll ops).apply .failRunLimit 0).1 = .cancel .reachedRetryLimit ∧
        ((job.performAll ops).apply .failRunLimit 0).2.state = .successful ∧
        heard (ops ++ [.apply .failRunLimit 0]) =
          heard ops ++ [.onCancel .reachedRetryLimit none] := by
  intro r ops
  have accepted : restore r (⟨⟨[{}], {}, [], 3⟩⟩ : ScriptedWork) =
      .ok (r.toJob (Work.absorb ⟨⟨[{}], {}, [], 3⟩⟩ r.repaired)) :=
    restore_eq_ok_iff.mpr ⟨by decide, by decide, rfl⟩
  exact ⟨_, accepted, .restored r _ accepted, ⟨rfl, rfl⟩, rfl, rfl, rfl⟩

end Job

end DeferredJobs
