import DeferredJobs.Job.Operation

/-!
# What operations do, field by field

Operations that have a choice are put as one equation each, in which every field has its value
whichever way the choice goes: `Job.onCancel_eq`, `Job.applyRetry_eq`, `Job.apply_eq` and the like.

All that a job does with its work item is to call it. An operation makes at most one `Call`, which
`Job.callOf?` names, and all that changes of a job besides its record comes of that call
(`Job.perform_eq`).
-/

namespace DeferredJobs

/-! ### Calls of a work item -/

/-- Something that a work item is asked to do, with what came of it, or that it is told. -/
inductive Call where
  | run (a : Attempt) (outcome : Outcome)
  | onCancel (reason : CancelReason) (failure : Option Failure)
  | absorb (r : Record)
  | setPriority (priority : Int32)

namespace Call

/-- The work item after a call. -/
def on {ω : Type} [Work ω] (w : ω) : Call → ω
  | run a _ => (Work.run w a).1
  | onCancel reason failure => Work.onCancel w reason failure
  | absorb r => Work.absorb w r
  | setPriority priority => Work.setPriority w priority

/-- The attempt that a call asks for. -/
def attempt? : Call → Option Attempt
  | run a _ => some a
  | _ => none

/-- The failure that came of a call. -/
def failure? : Call → Option Failure
  | run _ outcome => outcome.failure
  | _ => none

/-- A failure comes of an attempt. -/
theorem failure?_eq_none {c : Call} (h : c.attempt? = none) : c.failure? = none := by
  cases c with
  | run a outcome => contradiction
  | onCancel | absorb | setPriority => rfl

/-- Whether a call tells of a cancellation. -/
def isCancellation : Call → Bool
  | onCancel .. => true
  | _ => false

end Call

namespace Job

variable {ω : Type}

/-! ### Simple changes -/

theorem assignInsertionOrder_eq (job : Job ω) (order : Int64) :
    (job.assignInsertionOrder order).2 =
      { job with insertionOrder := job.insertionOrder.or (some order) } := by
  rw [assignInsertionOrder]
  split
  · next placed =>
    obtain ⟨n, eq⟩ := Option.isSome_iff_exists.mp placed
    rw [eq, Option.some_or, ← eq]
  · next unplaced =>
    rw [Option.not_isSome_iff_eq_none.mp unplaced, Option.none_or]

/-- The deadline has an effect on the flags only. -/
theorem enforceDeadline_eq (job : Job ω) (now : Nanos) :
    (job.enforceDeadline now).2 =
      { job with status := (job.enforceDeadline now).2.status } := by
  simp only [enforceDeadline]
  split
  · rfl
  · split <;> rfl

/-- Settling a code has an effect on the flags only. -/
theorem settle_eq (job : Job ω) (code : ResultCode) :
    (job.settle code).2 = { job with status := (job.settle code).2.status } := by
  rw [settle]
  split <;> rfl

/-- The flags of a job change only where a code asks for success to be recorded. -/
theorem settle_eq_of_not_isTerminal {job : Job ω} {code : ResultCode}
    (h : (job.settle code).1.isTerminal = false) : (job.settle code).2 = job := by
  rw [settle] at h ⊢
  split at h
  · dsimp only at h
    split at h <;> contradiction
  · rfl

/-- The retry constraint that takes effect when a code is applied. -/
def retryApplied? (job : Job ω) (code : ResultCode) : Option RetryConstraint :=
  if (job.settle code).1 = .reschedule then job.retry else none

/-- The call that tells of a cancellation, unless that has been done. -/
def notice? (job : Job ω) (reason : CancelReason) : Option Call :=
  if job.cancelNotified then none else some (.onCancel reason job.lastFailure)

/-- The work item is told, or it has been told. -/
theorem isCancellation_notice? (job : Job ω) (reason : CancelReason) :
    ((job.notice? reason).any (·.isCancellation) || job.cancelNotified) = true := by
  rw [notice?]
  cases job.cancelNotified <;> rfl

variable [Work ω]

/-- The call that an operation makes, if it makes one. -/
def callOf? (job : Job ω) : Operation → Option Call
  | .setPriority priority => some (.setPriority priority)
  | .onCancel reason => job.notice? reason
  | .cancelAsDuplicate => job.notice? .singleInstanceQueued
  | .run now => some (.run (job.nextAttempt now) (Work.run job.work (job.nextAttempt now)).2)
  | .apply code _ =>
    match (job.settle code).1.reason? with
    | some reason => job.notice? reason
    | none => ((job.retryApplied? code).bind (·.newPriority)).map .setPriority
  | _ => none

theorem callOf?_apply (job : Job ω) (code : ResultCode) (now : Nanos) :
    job.callOf? (.apply code now) =
      match (job.settle code).1.reason? with
      | some reason => job.notice? reason
      | none => ((job.retryApplied? code).bind (·.newPriority)).map .setPriority := rfl

theorem onCancel_eq (job : Job ω) (reason : CancelReason) :
    job.onCancel reason = { job with
      cancelNotified := true
      work := (job.notice? reason).elim job.work (·.on job.work) } := by
  rw [onCancel, notice?]
  split
  · next notified => rw [Option.elim_none, ← notified]
  · rfl

/-! ### Results of attempts -/

theorem applyRetry_eq (job : Job ω) (r : RetryConstraint) (now : Nanos) :
    job.applyRetry r now = { job with
      delayUntil := r.newDelay.elim job.delayUntil fun d => .upTo (offset now d)
      priority := r.newPriority.getD job.priority
      windows := r.newNetwork.elim job.windows fun n => .sealedAt now n.network n.unmetered
      work := r.newPriority.elim job.work (Work.setPriority job.work) } := by
  rw [applyRetry]
  cases r.newDelay <;> cases r.newPriority <;> cases r.newNetwork <;> rfl

/-- The flags of a job after a code is applied: a follow-up that cancels marks it so. -/
def appliedStatus (job : Job ω) (code : ResultCode) : Status :=
  match (job.settle code).1.reason? with
  | some _ => ((job.settle code).2.status.mark .cancelled).2
  | none => (job.settle code).2.status

/-- **Applying a code.** The number of attempts grows if there is to be another one, a retry
constraint takes effect only with a reschedule and is gone in any case, and a cancellation is
marked and told. Nothing else changes. -/
theorem apply_eq (job : Job ω) (code : ResultCode) (now : Nanos) :
    (job.apply code now).2 = { job with
      runCount := if (job.settle code).1.isTerminal then job.runCount else nextCount job.runCount
      delayUntil := ((job.retryApplied? code).bind (·.newDelay)).elim job.delayUntil
        fun d => .upTo (offset now d)
      priority := ((job.retryApplied? code).bind (·.newPriority)).getD job.priority
      windows := ((job.retryApplied? code).bind (·.newNetwork)).elim job.windows
        fun n => .sealedAt now n.network n.unmetered
      retry := none
      status := job.appliedStatus code
      cancelNotified := (job.settle code).1.reason?.isSome || job.cancelNotified
      work := (job.callOf? (.apply code now)).elim job.work (·.on job.work) } := by
  rw [apply, callOf?_apply, retryApplied?, appliedStatus]
  dsimp only
  rw [settle_eq]
  cases (job.settle code).1 with
  | remove | forceRun => rfl
  | cancel reason => exact onCancel_eq _ reason
  | reschedule =>
    cases job.retry with
    | none => rfl
    | some r =>
      obtain ⟨retry, delay, priority, network⟩ := r
      refine (applyRetry_eq _ _ now).trans ?_
      cases priority <;> rfl

/-! ### Any operation -/

/-- Nothing but an attempt has the work item run. -/
theorem exists_run_of_callOf? {job : Job ω} {op : Operation} {a : Attempt} {outcome : Outcome}
    (h : job.callOf? op = some (.run a outcome)) : ∃ now, op = .run now := by
  have unnoticed (reason : CancelReason) : job.notice? reason ≠ some (.run a outcome) := by
    rw [notice?]
    split <;> nofun
  cases op with
  | run now => exact ⟨now, rfl⟩
  | onCancel | cancelAsDuplicate => exact absurd h (unnoticed _)
  | apply code now =>
    rw [callOf?_apply] at h
    split at h
    · exact absurd h (unnoticed _)
    · obtain ⟨priority, -, eq⟩ := Option.map_eq_some_iff.mp h
      contradiction
  | _ => exact nomatch h

/-- What comes of attempts alone does not come of other operations. -/
theorem callOf?_of_ne_run {β : Type} {f : Call → Option β}
    (quiet : ∀ c, c.attempt? = none → f c = none) (job : Job ω) {op : Operation}
    (h : ∀ now, op ≠ .run now) : (job.callOf? op).bind f = none := by
  cases call : job.callOf? op with
  | none => rfl
  | some c =>
    refine quiet c ?_
    cases c with
    | run a outcome =>
      obtain ⟨now, run⟩ := exists_run_of_callOf? call
      exact absurd run (h now)
    | onCancel | absorb | setPriority => rfl

/-- **One call at most** accounts for all but the record of a job: the work item is what the call
makes of it, and the job remembers a failure that came of it and a cancellation that it told of. -/
theorem perform_eq (job : Job ω) (op : Operation) :
    ∃ profile status, (job.perform op).2 =
      { toProfile := profile
        status
        lastFailure := ((job.callOf? op).bind (·.failure?)).or job.lastFailure
        cancelNotified := (job.callOf? op).any (·.isCancellation) || job.cancelNotified
        work := (job.callOf? op).elim job.work (·.on job.work) } := by
  have quiet (h : ∀ now, op ≠ .run now) : (job.callOf? op).bind (·.failure?) = none :=
    callOf?_of_ne_run (fun _ => Call.failure?_eq_none) job h
  cases op with
  | setPriority | run | setRunCount | setCreatedAt | setDelayUntil | setSession =>
    exact ⟨_, _, rfl⟩
  | mark | takeRetry | clearRetry => exact ⟨_, _, rfl⟩
  | assignInsertionOrder order =>
    rw [perform, assignInsertionOrder_eq]
    exact ⟨_, _, rfl⟩
  | enforceDeadline now =>
    rw [perform, enforceDeadline_eq]
    exact ⟨_, _, rfl⟩
  | onCancel reason =>
    have told : ((job.callOf? (.onCancel reason)).any (·.isCancellation) || job.cancelNotified) =
        true := job.isCancellation_notice? reason
    rw [quiet fun _ => nofun, told, perform, onCancel_eq]
    exact ⟨_, _, rfl⟩
  | cancelAsDuplicate =>
    have told : ((job.callOf? .cancelAsDuplicate).any (·.isCancellation) || job.cancelNotified) =
        true := job.isCancellation_notice? _
    rw [quiet fun _ => nofun, told, perform, cancelAsDuplicate, onCancel_eq]
    exact ⟨_, _, rfl⟩
  | apply code now =>
    have told : ((job.callOf? (.apply code now)).any (·.isCancellation) || job.cancelNotified) =
        ((job.settle code).1.reason?.isSome || job.cancelNotified) := by
      rw [callOf?_apply]
      cases (job.settle code).1.reason? with
      | some reason => exact job.isCancellation_notice? reason
      | none => cases (job.retryApplied? code).bind (·.newPriority) <;> rfl
    rw [quiet fun _ => nofun, told, perform, apply_eq]
    exact ⟨_, _, rfl⟩

theorem work_perform (job : Job ω) (op : Operation) :
    (job.perform op).2.work = (job.callOf? op).elim job.work (·.on job.work) := by
  obtain ⟨profile, status, eq⟩ := job.perform_eq op
  rw [eq]

/-- The last failure stays until an attempt fails. -/
theorem lastFailure_perform (job : Job ω) (op : Operation) :
    (job.perform op).2.lastFailure = ((job.callOf? op).bind (·.failure?)).or job.lastFailure := by
  obtain ⟨profile, status, eq⟩ := job.perform_eq op
  rw [eq]

end Job

end DeferredJobs
