import DeferredJobs.Proofs.Job.Construction
import DeferredJobs.Proofs.Job.Observation
import DeferredJobs.Work.Rehearsal

/-!
# Telling a work item that its job is cancelled

Three operations ask for the work item to be told of a cancellation: `onCancel` and
`cancelAsDuplicate` always, and `apply` where its reply is to cancel. `Job.cancelRequest?` reads
the request off an operation and its reply.

* **One operation**: a request is passed on to a work item that has not been told, and from then on
  the job is notified (`Job.cancelNotified_perform`); no other operation tells anything.
* **A history**: so the work item is told once if there is a request, and never if there is none
  (`Job.countP_calls`). What is told is the first request (`Job.calls_of_first_request`).
* **The failure** handed over is the job's last one, which is what the latest of the attempts that
  reported a failure left (`Job.lastFailure_performAll`).

`Job.Constructed.told_of_first_request` puts this together for jobs from their first day on.
-/

namespace DeferredJobs.Job

variable {ω : Type}

/-! ### Requests -/

/-- The cancellation that the work item is to be told of, as an operation and its reply show. -/
def cancelRequest? : Operation × Reply → Option CancelReason
  | (.onCancel reason, _) => some reason
  | (.cancelAsDuplicate, _) => some .singleInstanceQueued
  | (.apply .., .followUp f) => f.reason?
  | _ => none

variable [Work ω] {job : Job ω} {op : Operation} {reason : CancelReason}

/-- A request is passed on. -/
theorem callOf?_of_request (h : cancelRequest? (op, (job.perform op).1) = some reason) :
    job.callOf? op = job.notice? reason := by
  cases op with
  | onCancel | cancelAsDuplicate =>
    obtain rfl := Option.some.inj h
    rfl
  | apply code now =>
    have settled : (job.settle code).1.reason? = some reason := h
    rw [callOf?_apply, settled]
  | _ => contradiction

/-- Without a request, nothing is told of a cancellation. -/
theorem callOf?_of_no_request (h : cancelRequest? (op, (job.perform op).1) = none) :
    (job.callOf? op).any (·.isCancellation) = false := by
  cases op with
  | onCancel | cancelAsDuplicate => contradiction
  | apply code now =>
    have settled : (job.settle code).1.reason? = none := h
    rw [callOf?_apply, settled]
    cases (job.retryApplied? code).bind (·.newPriority) <;> rfl
  | _ => rfl

/-- A work item is told what is requested, unless it has been told before. -/
theorem callOf?_eq_onCancel_iff {failure : Option Failure} :
    job.callOf? op = some (.onCancel reason failure) ↔
      cancelRequest? (op, (job.perform op).1) = some reason ∧ job.cancelNotified = false ∧
        failure = job.lastFailure := by
  cases request : cancelRequest? (op, (job.perform op).1) with
  | none =>
    have silent := callOf?_of_no_request request
    refine iff_of_false (fun told => ?_) nofun
    rw [told] at silent
    contradiction
  | some r =>
    rw [callOf?_of_request request, notice?]
    cases job.cancelNotified with
    | true => simp
    | false => simp [eq_comm]

/-- A job remembers that its work item was told. -/
theorem cancelNotified_perform (job : Job ω) (op : Operation) :
    (job.perform op).2.cancelNotified =
      ((cancelRequest? (op, (job.perform op).1)).isSome || job.cancelNotified) := by
  have told : (job.perform op).2.cancelNotified =
      ((job.callOf? op).any (·.isCancellation) || job.cancelNotified) := by
    obtain ⟨profile, status, eq⟩ := job.perform_eq op
    rw [eq]
  rw [told]
  cases request : cancelRequest? (op, (job.perform op).1) with
  | none => rw [callOf?_of_no_request request, Option.isSome_none]
  | some reason =>
    rw [callOf?_of_request request, isCancellation_notice?, Option.isSome_some, Bool.true_or]

/-! ### Histories -/

/-- A job whose work item was not told, and that gets no request, stays so. -/
theorem cancelNotified_performAll (job : Job ω) (ops : List Operation) :
    (job.performAll ops).cancelNotified =
      ((job.events ops).any (fun e => (cancelRequest? e).isSome) || job.cancelNotified) := by
  induction ops generalizing job with
  | nil => rfl
  | cons op ops ih =>
    rw [performAll_cons, ih, cancelNotified_perform, events, List.any_cons, ← Bool.or_assoc]
    congr 1
    exact Bool.or_comm _ _

theorem calls_append (job : Job ω) (before after : List Operation) :
    job.calls (before ++ after) = job.calls before ++ (job.performAll before).calls after := by
  induction before generalizing job with
  | nil => rfl
  | cons op before ih =>
    rw [List.cons_append, calls, ih, calls, performAll_cons, List.append_assoc]

theorem calls_concat (job : Job ω) (ops : List Operation) (op : Operation) :
    job.calls (ops ++ [op]) = job.calls ops ++ ((job.performAll ops).callOf? op).toList := by
  rw [calls_append, calls, calls, List.append_nil]

/-- **The last failure** is that of the latest attempt that failed, or the one from before. -/
theorem lastFailure_performAll (job : Job ω) (ops : List Operation) :
    (job.performAll ops).lastFailure =
      ((job.calls ops).filterMap Call.failure?).getLast?.or job.lastFailure := by
  induction ops generalizing job with
  | nil => rfl
  | cons op ops ih =>
    have step : ((job.callOf? op).toList.filterMap Call.failure?).getLast? =
        (job.callOf? op).bind (·.failure?) := by
      cases job.callOf? op with
      | none => rfl
      | some c => cases h : c.failure? <;> simp [h]
    rw [performAll_cons, ih, lastFailure_perform, calls, List.filterMap_append,
      List.getLast?_append, step, Option.or_assoc]

/-- **Told once at most**: a request counts if none came before. -/
theorem countP_calls (job : Job ω) (ops : List Operation) :
    (job.calls ops).countP Call.isCancellation =
      if !job.cancelNotified && (job.events ops).any (fun e => (cancelRequest? e).isSome)
      then 1 else 0 := by
  induction ops generalizing job with
  | nil => simp [calls, events]
  | cons op ops ih =>
    rw [calls, List.countP_append, ih, cancelNotified_perform, events, List.any_cons]
    cases request : cancelRequest? (op, (job.perform op).1) with
    | none =>
      have silent : (job.callOf? op).toList.countP Call.isCancellation = 0 := by
        have none_told := callOf?_of_no_request request
        cases h : job.callOf? op <;> simp_all
      rw [silent, Nat.zero_add, Option.isSome_none, Bool.false_or, Bool.false_or]
    | some reason =>
      -- the first request is passed on, and the ones that follow are not
      rw [callOf?_of_request request, notice?]
      cases job.cancelNotified <;> rfl

/-- **The first request is what is told**, with the last failure up to then. -/
theorem calls_of_first_request {before after : List Operation}
    (untold : (job.performAll before).cancelNotified = false)
    (request : cancelRequest? (op, ((job.performAll before).perform op).1) = some reason) :
    ∃ later, job.calls (before ++ op :: after) =
      job.calls before ++ .onCancel reason (job.performAll before).lastFailure :: later := by
  have told : (job.performAll before).callOf? op =
      some (.onCancel reason (job.performAll before).lastFailure) :=
    callOf?_eq_onCancel_iff.mpr ⟨request, untold, rfl⟩
  rw [calls_append, calls, told]
  exact ⟨_, rfl⟩

/-- **A work item is told of a cancellation once**, by the first request. Take a job that was built
or restored, and keep a list of the calls of its work item, which changes nothing otherwise. After
any operations, the work item has been told just once if there was a request, and not at all if
there was none. What it was told is the reason of the first request, and the failure of the latest
of the attempts before that had reported one. -/
theorem Constructed.told_of_first_request (made : job.Constructed) (ops : List Operation) :
    let heard (ops : List Operation) := (job.observed.performAll ops).work.calls
    ((job.observed.performAll ops).map Observed.work = job.performAll ops ∧
      job.observed.events ops = job.events ops) ∧
    ((heard ops).countP Call.isCancellation =
      if (job.events ops).any (fun e => (cancelRequest? e).isSome) then 1 else 0) ∧
    ∀ before op after reason, ops = before ++ op :: after →
      (∀ e ∈ job.events before, cancelRequest? e = none) →
      cancelRequest? (op, ((job.performAll before).perform op).1) = some reason →
      ∃ later, heard ops = heard before ++
        .onCancel reason ((heard before).filterMap Call.failure?).getLast? :: later := by
  intro heard
  obtain ⟨unfailed, unnotified⟩ := made.unnotified
  have heard_eq (ops : List Operation) : heard ops = job.calls ops := job.calls_observed ops
  refine ⟨⟨job.map_work_observed ops, job.events_observed ops⟩, ?_, ?_⟩
  · rw [heard_eq, countP_calls, unnotified]
    rfl
  · rintro before op after reason rfl none_before request
    have untold : (job.performAll before).cancelNotified = false := by
      rw [cancelNotified_performAll, unnotified, Bool.or_false, List.any_eq_false]
      simpa using none_before
    have last : (job.performAll before).lastFailure =
        ((job.calls before).filterMap Call.failure?).getLast? := by
      rw [lastFailure_performAll, unfailed, Option.or_none]
    rw [heard_eq, heard_eq, ← last]
    exact calls_of_first_request untold request

/-- The first attempt fails, the second one reports no failure and is cancelled before its success
is recorded; then the job is cancelled again. -/
theorem told_of_first_request_late_success :
    let failing : Rehearsal.Step := { code := .tryAgain, failure := some "offline" }
    let settings : List (Setting ScriptedWork) :=
      [.id "sync", .persistent true, .priority 3, .groupId none, .work ⟨⟨[failing, {}], {}, [], 3⟩⟩,
        .createdAt 10, .delayUntil .never, .session ⟨1⟩, .networkUntil .never,
        .unmeteredUntil .never]
    let before : List Operation := [.run 20, .apply .tryAgain 21, .run 30, .mark .cancelled]
    let ops := before ++ [.apply .success 31, .onCancel .reachedDeadline, .cancelAsDuplicate]
    ∃ job, (Builder.ofSettings settings).build = .ok job ∧
      (job.observed.performAll ops).work.calls.countP Call.isCancellation = 1 ∧
      ∃ later, (job.observed.performAll ops).work.calls =
        (job.observed.performAll before).work.calls ++
          .onCancel .cancelledWhileRunning (some ⟨"offline"⟩) :: later := by
  intro failing settings before ops
  have built : ∃ job, (Builder.ofSettings settings).build = .ok job := ⟨_, rfl⟩
  obtain ⟨job, h⟩ := built
  obtain ⟨-, once, first⟩ := Constructed.told_of_first_request (.built settings h) ops
  obtain rfl := Except.ok.inj h
  exact ⟨_, rfl, once, first before _ _ .cancelledWhileRunning rfl (by decide) rfl⟩

end DeferredJobs.Job
