import DeferredJobs.Proofs.Job.Restart

/-!
# Pending retry constraints

An attempt may leave a retry constraint, which is pending until the result of the attempt is
applied. Nothing of it is left for later attempts.

* **One operation** (`Job.retry_perform`): an attempt replaces what is pending by what it leaves, a
  result that is applied takes it away, as `takeRetry` and `clearRetry` do, and no other operation
  touches it.
* **What is pending** after a history is therefore what the latest attempt left, if this has not
  been taken away since (`Job.retry_performAll_of_run`).
* **What takes effect** is a pending constraint, when another attempt is asked for. In the course of
  a history these are some of the constraints that were left, in order and each of them once
  (`Job.retriesUsed_sublist`).

`Job.retries_do_not_linger` puts this together, with all that an attempt changes of a job.
-/

namespace DeferredJobs

/-- Whether an operation takes a pending retry constraint away, without leaving another one. -/
def Operation.endsRetry : Operation → Bool
  | apply .. | takeRetry | clearRetry => true
  | _ => false

namespace Job

variable {ω : Type}

/-- The retry constraint that an operation puts into effect. -/
def retryUsed? (job : Job ω) : Operation → Option RetryConstraint
  | .apply .tryAgain _ => job.retry
  | _ => none

theorem retryUsed?_sublist (job : Job ω) (op : Operation) :
    (job.retryUsed? op).toList.Sublist job.retry.toList := by
  rw [retryUsed?.eq_def]
  split
  · exact List.Sublist.refl _
  · exact List.nil_sublist _

/-- What takes effect is taken away. -/
theorem retryUsed?_eq_none (job : Job ω) {op : Operation} (h : op.endsRetry = false) :
    job.retryUsed? op = none := by
  cases op with
  | apply => contradiction
  | _ => rfl

/-- A job is sent back with new settings by one code only. -/
theorem retryApplied?_eq (job : Job ω) (code : ResultCode) (now : Nanos) :
    job.retryApplied? code = job.retryUsed? (.apply code now) := by
  cases code with
  | success =>
    -- success is recorded or the job is cancelled
    have settled : (job.settle .success).1 ≠ .reschedule := by
      dsimp only [settle, ResultCode.followUp]
      split <;> nofun
    exact if_neg settled
  | hitDeadline =>
    have settled : (job.settle .hitDeadline).1 ≠ .reschedule := by
      dsimp only [settle, ResultCode.followUp]
      cases job.cancelOnDeadline <;> nofun
    exact if_neg settled
  | tryAgain | failRunLimit | failForCancel | failShouldReRun | failSingleId => rfl

variable [Work ω] {job : Job ω} {op : Operation}

/-- What comes of the next attempt, if it starts at `now`. -/
def nextOutcome (job : Job ω) (now : Nanos) : Outcome :=
  (Work.run job.work (job.nextAttempt now)).2

/-! ### One operation -/

/-- What an attempt leaves replaces what was pending before. -/
theorem retry_run (job : Job ω) (now : Nanos) :
    (job.run now).2.retry = (job.nextOutcome now).retry := rfl

/-- Other operations leave what is pending alone, or take it away. -/
theorem retry_perform (job : Job ω) (h : ∀ now, op ≠ .run now) :
    (job.perform op).2.retry = if op.endsRetry then none else job.retry := by
  cases op with
  | run now => exact absurd rfl (h now)
  | setPriority | setRunCount | setCreatedAt | setDelayUntil | setSession | mark => rfl
  | takeRetry | clearRetry => rfl
  | assignInsertionOrder order =>
    rw [perform, assignInsertionOrder_eq]
    rfl
  | enforceDeadline now =>
    rw [perform, enforceDeadline_eq]
    rfl
  | onCancel reason =>
    rw [perform, onCancel_eq]
    rfl
  | cancelAsDuplicate =>
    rw [perform, cancelAsDuplicate, onCancel_eq]
    rfl
  | apply code now =>
    rw [perform, apply_eq]
    rfl

/-- **All that an attempt changes** of the record are the retry constraint and the flags, and the
flags as they were marked meanwhile. -/
theorem toRecord_run (job : Job ω) (now : Nanos) :
    let outcome := job.nextOutcome now
    let flags := (outcome.changes.filterMap Change.mark?).foldl (fun s m => (s.mark m).2) job.status
    (job.run now).2.toRecord = { job.toRecord with
      retry := outcome.retry
      cancelled := flags.cancelled
      cancelledSingleId := flags.cancelledSingleId
      successful := flags.successful } := by
  intro outcome flags
  have status : (job.run now).2.status = flags :=
    (job.nextAttempt now).scene.status_afterAll outcome.changes
  rw [toRecord, status]
  rfl

/-! ### What is pending -/

/-- As long as there is no attempt, nothing new is pending. -/
theorem retry_performAll_of_no_run (job : Job ω) {ops : List Operation}
    (quiet : ∀ now, .run now ∉ ops) :
    (job.performAll ops).retry = if ops.any (·.endsRetry) then none else job.retry := by
  induction ops generalizing job with
  | nil => rfl
  | cons op ops ih =>
    have first (now : Nanos) : op ≠ .run now := fun run => quiet now (run ▸ List.mem_cons_self)
    have others (now : Nanos) : .run now ∉ ops := fun later => quiet now (.tail _ later)
    rw [performAll_cons, ih _ others, retry_perform job first, List.any_cons]
    cases op.endsRetry <;> simp

/-- **What is pending** is what the latest attempt left, unless it has been taken away since. -/
theorem retry_performAll_of_run (job : Job ω) (before : List Operation) (now : Nanos)
    {after : List Operation} (latest : ∀ later, .run later ∉ after) :
    (job.performAll (before ++ .run now :: after)).retry =
      if after.any (·.endsRetry) then none else ((job.performAll before).nextOutcome now).retry := by
  have split : job.performAll (before ++ .run now :: after) =
      ((job.performAll before).run now).2.performAll after := List.foldl_append
  rw [split, retry_performAll_of_no_run _ latest, retry_run]

/-! ### What takes effect -/

/-- The retry constraints that take effect in the course of operations. -/
def retriesUsed (job : Job ω) : List Operation → List RetryConstraint
  | [] => []
  | op :: ops => (job.retryUsed? op).toList ++ (job.perform op).2.retriesUsed ops

/-- **Each constraint takes effect once at most**: those that do are some of the one that is
pending at the start and of the ones that attempts leave, in order. -/
theorem retriesUsed_sublist (job : Job ω) (ops : List Operation) :
    (job.retriesUsed ops).Sublist (job.retry.toList ++ (job.outcomes ops).filterMap (·.retry)) := by
  induction ops generalizing job with
  | nil => exact List.nil_sublist _
  | cons op ops ih =>
    have others := ih (job.perform op).2
    by_cases runs : ∃ now, op = .run now
    · obtain ⟨now, rfl⟩ := runs
      -- what was pending is replaced, and takes effect no more
      have left : (job.outcomes (.run now :: ops)).filterMap (·.retry) =
          (job.nextOutcome now).retry.toList ++
            ((job.run now).2.outcomes ops).filterMap (·.retry) := by
        change (job.nextOutcome now :: (job.run now).2.outcomes ops).filterMap (·.retry) = _
        rw [List.filterMap_cons]
        cases (job.nextOutcome now).retry <;> rfl
      rw [left]
      exact others.trans (List.sublist_append_right _ _)
    · have no_run := not_exists.mp runs
      rw [retry_perform job no_run] at others
      rw [retriesUsed, job.outcomes_of_ne_run ops no_run]
      cases ends : op.endsRetry with
      | true =>
        rw [ends, if_pos rfl] at others
        exact (job.retryUsed?_sublist op).append others
      | false =>
        rw [ends, if_neg Bool.false_ne_true] at others
        rw [job.retryUsed?_eq_none ends]
        exact others

/-- **Retry constraints do not linger.** Take a job after any operations. An attempt starts without
a retry constraint and leaves one or none, and this is what is pending next, whatever was pending
before. Beside this, the attempt changes nothing of the record but the flags, by the marks that were
made meanwhile, and the job remembers another failure only if the attempt reported one. After a
result has been applied, nothing is pending. So what is pending is what the latest attempt left, if
it has not been taken away since, and this is what a code that asks for another attempt puts into
effect: no other code puts any into effect, and without one, delay, priority and windows stay as
they are. In the whole course of the operations, the constraints that took effect are some of those
that were left, and of the one that was pending at the start, in order and each of them once. -/
theorem retries_do_not_linger (job : Job ω) (ops : List Operation) :
    let current := job.performAll ops
    (∀ now,
      let outcome := current.nextOutcome now
      let flags :=
        (outcome.changes.filterMap Change.mark?).foldl (fun s m => (s.mark m).2) current.status
      (current.nextAttempt now).retry = none ∧
      (current.run now).2.retry = outcome.retry ∧
      (current.run now).2.toRecord = { current.toRecord with
        retry := outcome.retry
        cancelled := flags.cancelled
        cancelledSingleId := flags.cancelledSingleId
        successful := flags.successful } ∧
      (current.run now).2.lastFailure = outcome.failure.or current.lastFailure) ∧
    (∀ code now,
      let used := if code = .tryAgain then current.retry else none
      let after := (current.apply code now).2
      after.retry = none ∧
      after.delayUntil = (used.bind (·.newDelay)).elim current.delayUntil
        (fun d => .upTo (offset now d)) ∧
      after.priority = (used.bind (·.newPriority)).getD current.priority ∧
      after.windows = (used.bind (·.newNetwork)).elim current.windows
        (fun n => .sealedAt now n.network n.unmetered)) ∧
    (∀ before now after, ops = before ++ .run now :: after → (∀ later, .run later ∉ after) →
      current.retry =
        if after.any (·.endsRetry) then none
        else ((job.performAll before).nextOutcome now).retry) ∧
    ((∀ now, .run now ∉ ops) →
      current.retry = if ops.any (·.endsRetry) then none else job.retry) ∧
    (job.retriesUsed ops).Sublist (job.retry.toList ++ (job.outcomes ops).filterMap (·.retry)) := by
  intro current
  refine ⟨fun now => ⟨rfl, current.retry_run now, current.toRecord_run now, rfl⟩,
    fun code now => ?_, ?_, job.retry_performAll_of_no_run, job.retriesUsed_sublist ops⟩
  · intro used after
    have used_eq : current.retryApplied? code = used := by
      rw [current.retryApplied?_eq code now]
      cases code <;> rfl
    have applied := current.apply_eq code now
    rw [used_eq] at applied
    refine ⟨?_, ?_, ?_, ?_⟩ <;> simp only [after, applied]
  · rintro before now after rfl latest
    exact job.retry_performAll_of_run before now latest

/-- A job is restored while a delay is pending, and makes another attempt, which asks for a new
priority instead; when another attempt after that asks for nothing, the priority has its effect no
second time. -/
theorem retries_do_not_linger_stale :
    let stale : RetryConstraint := RetryConstraint.again.withDelay (.ofMillis 5)
    let r : Record :=
      { id := "sync", persistent := true, priority := 3, groupId := none, runCount := 0
        createdAt := 0, delayUntil := .never, insertionOrder := none, session := ⟨1⟩
        windows := ⟨.never, .never⟩, deadline := .forever, cancelOnDeadline := false
        tags := none, retry := some stale }
    let urgent : RetryConstraint := RetryConstraint.again.withPriority 9
    let first : Rehearsal.Step := { code := .tryAgain, retry := some (.fixed urgent) }
    let second : Rehearsal.Step := { code := .tryAgain, failure := some "offline" }
    let job : Job ScriptedWork := r.toJob ⟨⟨[first, second], {}, [], 3⟩⟩
    let before : List Operation := [.run 10, .apply .tryAgain 11, .setPriority 4]
    let ops := before ++ [.run 20, .mark .cancelled]
    (∀ later, .run later ∉ [Operation.mark .cancelled]) ∧
      (job.performAll ops).retry = ((job.performAll before).nextOutcome 20).retry ∧
      ((job.performAll ops).apply .tryAgain 21).2.priority = 4 ∧
      ((job.performAll ops).apply .tryAgain 21).2.delayUntil = .never ∧
      (job.performAll ops).lastFailure = some ⟨"offline"⟩ ∧
      job.retriesUsed ops = [urgent] ∧
      (job.retriesUsed ops).Sublist [stale, urgent] := by
  intro stale r urgent first second job before ops
  have latest (later : Nanos) : .run later ∉ [Operation.mark .cancelled] := by simp
  obtain ⟨-, applied, pending, -, once⟩ := job.retries_do_not_linger ops
  obtain ⟨-, delay, priority, -⟩ := applied .tryAgain 21
  exact ⟨latest, pending before 20 _ rfl latest, priority, delay, rfl, rfl, once⟩

end Job

end DeferredJobs
