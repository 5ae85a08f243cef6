import DeferredJobs.Proofs.Job.FollowUps
import DeferredJobs.Proofs.Job.Observation
import DeferredJobs.Proofs.Work.Task
import DeferredJobs.Work.Rehearsal

/-!
# Retries come to an end

A queue makes attempts and applies their results in turn, and meanwhile anything else may happen
to the job but a change of its run count: `Job.Alternates`. If the work item is a task whose limit
stays the same, this comes to an end.

* **One attempt**: when the result of an attempt waits to be applied, it asks for another attempt
  only if this was not the last one, and it does not run the job by force (`Job.Waits`).
* **One result**: so a job that is sent back has come closer to the limit
  (`Job.Waits.sent_back`).
* **A whole run** therefore sends the job back no more often than there were attempts left
  (`Job.Alternates.countP_followUps`), never by force, and up to the first final result the
  attempts are numbered one after the other (`Job.Alternates.number_attempt`).
-/

namespace DeferredJobs

/-! ### Runs -/

/-- An operation that neither makes an attempt nor applies a result nor sets the run count. -/
def Operation.isFree : Operation → Bool
  | .setRunCount _ | .run _ | .apply _ _ => false
  | _ => true

namespace Job

section Alternation

variable {ω : Type} [Work ω]

/-- Attempts and their results in turn, with any free operations before, between and after: each
attempt is followed by the application of the code that it ended with. A code that waits to be
applied at the start is given. -/
inductive Alternates : Job ω → Option ResultCode → List Operation → Prop
  | done (job : Job ω) (waiting : Option ResultCode) : Alternates job waiting []
  | run {job : Job ω} {now : Nanos} {ops : List Operation}
      (rest : Alternates (job.run now).2 (some (job.run now).1.code) ops) :
      Alternates job none (.run now :: ops)
  | apply {job : Job ω} {code : ResultCode} {now : Nanos} {ops : List Operation}
      (rest : Alternates (job.apply code now).2 none ops) :
      Alternates job (some code) (.apply code now :: ops)
  | free {job : Job ω} {waiting : Option ResultCode} {op : Operation} {ops : List Operation}
      (free : op.isFree = true) (rest : Alternates (job.perform op).2 waiting ops) :
      Alternates job waiting (op :: ops)

/-- What is left for the dispatcher, as the reply to an operation says. -/
def followUp? : Operation × Reply → Option FollowUp
  | (_, .followUp f) => some f
  | _ => none

variable {job : Job ω} {op : Operation}

theorem followUp?_of_isFree (h : op.isFree = true) : followUp? (op, (job.perform op).1) = none := by
  cases op <;> first | rfl | contradiction

theorem runCount_perform_of_isFree (h : op.isFree = true) :
    (job.perform op).2.runCount = job.runCount := by
  cases op with
  | run | apply | setRunCount => contradiction
  | setPriority | setCreatedAt | setDelayUntil | setSession | mark | takeRetry | clearRetry => rfl
  | assignInsertionOrder order => rw [perform, assignInsertionOrder_eq]
  | enforceDeadline now => rw [perform, enforceDeadline_eq]
  | onCancel reason => rw [perform, onCancel_eq]
  | cancelAsDuplicate =>
    rw [perform, cancelAsDuplicate, onCancel_eq]
    rfl

/-- Run counts go up to the largest 32-bit number. -/
theorem toNat_nextCount (n : UInt32) :
    (nextCount n).toNat = min (n.toNat + 1) (UInt32.size - 1) := by
  have small : n.toNat < UInt32.size := n.toNat_lt_size
  simp only [nextCount, UInt32.lt_iff_toNat_lt]
  split
  · next below =>
    have below : n.toNat + 1 < UInt32.size := Nat.add_lt_of_lt_sub below
    rw [UInt32.toNat_add, UInt32.toNat_one, Nat.mod_eq_of_lt below]
    omega
  · next full =>
    have full : UInt32.size - 1 ≤ n.toNat := Nat.le_of_not_lt full
    omega

theorem runCount_apply (job : Job ω) (code : ResultCode) (now : Nanos) :
    (job.apply code now).2.runCount =
      if (job.apply code now).1.isTerminal then job.runCount else nextCount job.runCount := by
  rw [apply_eq]
  rfl

/-- The replies that leave something for the dispatcher, in the order of the results. -/
def followUps (job : Job ω) (ops : List Operation) : List FollowUp :=
  (job.events ops).filterMap followUp?

/-- The attempts that a work item is asked for, in order. -/
def attempts (job : Job ω) (ops : List Operation) : List Attempt :=
  (job.calls ops).filterMap Call.attempt?

theorem followUps_free {ops : List Operation} (h : op.isFree = true) :
    job.followUps (op :: ops) = (job.perform op).2.followUps ops :=
  List.filterMap_cons_none (followUp?_of_isFree h)

theorem followUps_apply (job : Job ω) (code : ResultCode) (now : Nanos) (ops : List Operation) :
    job.followUps (.apply code now :: ops) =
      (job.apply code now).1 :: (job.apply code now).2.followUps ops := rfl

theorem attempts_of_ne_run (job : Job ω) {ops : List Operation} (h : ∀ now, op ≠ .run now) :
    job.attempts (op :: ops) = (job.perform op).2.attempts ops :=
  filterMap_calls_of_ne_run (fun _ => id) job ops h

theorem attempts_free {ops : List Operation} (h : op.isFree = true) :
    job.attempts (op :: ops) = (job.perform op).2.attempts ops :=
  job.attempts_of_ne_run fun now run => by
    rw [run] at h
    contradiction

theorem attempts_apply (job : Job ω) (code : ResultCode) (now : Nanos) (ops : List Operation) :
    job.attempts (.apply code now :: ops) = (job.apply code now).2.attempts ops :=
  job.attempts_of_ne_run fun _ => nofun

/-! ### The numbers of attempts -/

/-- **Attempts are numbered one after the other** until a result is final: as long as all results
before it send the job back, each attempt counts one more, up to the largest number there is. -/
theorem Alternates.number_attempt {waiting : Option ResultCode} {ops : List Operation}
    (alternates : job.Alternates waiting ops) (i : Nat) (a : Attempt)
    (ith : (job.attempts ops)[i]? = some a)
    (sent_back : ∀ f ∈ (job.followUps ops).take (i + waiting.isSome.toNat), f.isTerminal = false) :
    a.number.toNat = min (job.runCount.toNat + i + waiting.isSome.toNat + 1) (UInt32.size - 1) := by
  induction alternates generalizing i with
  | done => simp [attempts, calls] at ith
  | @run job now ops rest ih =>
    cases i with
    | zero =>
      obtain rfl : job.nextAttempt now = a := Option.some.inj ith
      exact toNat_nextCount job.runCount
    | succ i =>
      -- the first attempt waits for its result when the others begin
      exact ih i ith sent_back
  | @apply job code now ops rest ih =>
    rw [attempts_apply] at ith
    rw [followUps_apply, Option.isSome_some, Bool.toNat_true, List.take_succ_cons,
      List.forall_mem_cons] at sent_back
    obtain ⟨first, others⟩ := sent_back
    have later := ih i ith others
    rw [runCount_apply, first] at later
    simp only [Bool.false_eq_true, if_false, toNat_nextCount, Option.isSome_none,
      Option.isSome_some, Bool.toNat_false, Bool.toNat_true] at later ⊢
    omega
  | free free rest ih =>
    rw [attempts_free free] at ith
    rw [followUps_free free] at sent_back
    rw [ih i ith sent_back, runCount_perform_of_isFree free]

/-- Every attempt but the last one has its result. -/
theorem Alternates.length_attempts {waiting : Option ResultCode} {ops : List Operation}
    (alternates : job.Alternates waiting ops) :
    (job.followUps ops).length ≤ (job.attempts ops).length + waiting.isSome.toNat ∧
      (job.attempts ops).length + waiting.isSome.toNat ≤ (job.followUps ops).length + 1 := by
  induction alternates with
  | done job waiting => cases waiting <;> simp [followUps, attempts, events, calls]
  | run rest ih => exact ih
  | @apply job code now ops rest ih =>
    rw [attempts_apply, followUps_apply, List.length_cons]
    exact ⟨Nat.succ_le_succ ih.1, Nat.succ_le_succ ih.2⟩
  | free free rest ih =>
    rw [attempts_free free, followUps_free free]
    exact ih

end Alternation

/-! ### The limit of a task -/

section Limit

variable {τ : Type} [Task τ] {job : Job (TaskWork τ)} {limit : UInt32}

/-- Whatever is done with a job, its task moves by what tasks can do. -/
theorem moves_perform (job : Job (TaskWork τ)) (op : Operation) :
    Relation.ReflTransGen Task.Moves job.work.task (job.perform op).2.work.task := by
  rw [work_perform]
  cases job.callOf? op with
  | none => exact .refl
  | some c => exact job.work.moves_on c

/-- A job whose task has the same limit whatever it does, and what is known of the code that waits
to be applied to it. -/
structure Waits (limit : UInt32) (job : Job (TaskWork τ)) (waiting : Option ResultCode) : Prop where
  limit_eq : ∀ t, Relation.ReflTransGen Task.Moves job.work.task t → Task.retryLimit t = limit
  /-- The attempt after this one is not the last one. -/
  tryAgain : waiting = some .tryAgain → nextCount job.runCount < limit
  hitDeadline : waiting = some .hitDeadline → job.cancelOnDeadline = true

namespace Waits

variable {waiting : Option ResultCode} {code : ResultCode} {op : Operation}

theorem limit_perform (waits : job.Waits limit waiting) (op : Operation) (t : τ)
    (later : Relation.ReflTransGen Task.Moves (job.perform op).2.work.task t) :
    Task.retryLimit t = limit :=
  waits.limit_eq t ((job.moves_perform op).trans later)

/-- **One attempt.** -/
theorem run (waits : job.Waits limit none) (now : Nanos) :
    (job.run now).2.Waits limit (some (job.run now).1.code) where
  limit_eq := waits.limit_perform (.run now)
  tryAgain again := by
    have code : (job.work.run (job.nextAttempt now)).2.code = .tryAgain := Option.some.inj again
    have below := TaskWork.number_lt_of_tryAgain code
    rwa [waits.limit_eq _ (.single (.run ..))] at below
  hitDeadline hit :=
    have code : (job.work.run (job.nextAttempt now)).2.code = .hitDeadline := Option.some.inj hit
    TaskWork.cancelOnDeadline_of_hitDeadline code

/-- **One result.** A job that is sent back is sent to the queue, and has come closer to the
limit. -/
theorem sent_back (waits : job.Waits limit (some code)) {now : Nanos}
    (h : (job.apply code now).1.isTerminal = false) :
    (job.apply code now).1 = .reschedule ∧ nextCount job.runCount < limit := by
  have open_code : (code.followUp job.cancelOnDeadline).isTerminal = false :=
    (job.isTerminal_settle code).symm.trans h
  cases code with
  | tryAgain => exact ⟨rfl, waits.tryAgain rfl⟩
  | hitDeadline =>
    rw [waits.hitDeadline rfl] at open_code
    contradiction
  | success | failRunLimit | failForCancel | failShouldReRun | failSingleId => contradiction

theorem apply (waits : job.Waits limit (some code)) (now : Nanos) :
    (job.apply code now).2.Waits limit none where
  limit_eq := waits.limit_perform (.apply code now)
  tryAgain := nofun
  hitDeadline := nofun

theorem free (waits : job.Waits limit waiting) (h : op.isFree = true) :
    (job.perform op).2.Waits limit waiting where
  limit_eq := waits.limit_perform op
  tryAgain again := by
    rw [runCount_perform_of_isFree h]
    exact waits.tryAgain again
  hitDeadline hit := (job.perform_evolvesTo op).cancelOnDeadline.trans (waits.hitDeadline hit)

end Waits

/-! ### Whole runs -/

namespace Alternates

variable {waiting : Option ResultCode} {ops : List Operation}

/-- **A job is sent back only so often**: each time takes it one attempt closer to the limit. -/
theorem countP_followUps (alternates : job.Alternates waiting ops)
    (waits : job.Waits limit waiting) :
    (job.followUps ops).countP (!·.isTerminal) ≤ limit.toNat - 1 - job.runCount.toNat := by
  induction alternates with
  | done => exact Nat.zero_le _
  | run rest ih => exact ih (waits.run _)
  | @apply job code now ops rest ih =>
    have others := ih (waits.apply now)
    rw [runCount_apply] at others
    rw [followUps_apply, List.countP_cons]
    cases final : (job.apply code now).1.isTerminal with
    | true => simpa [final] using others
    | false =>
      have closer : (nextCount job.runCount).toNat < limit.toNat :=
        UInt32.lt_iff_toNat_lt.mp (waits.sent_back final).2
      have small : limit.toNat < UInt32.size := limit.toNat_lt_size
      simp only [final, Bool.false_eq_true, if_false, Bool.not_false, if_true] at others ⊢
      rw [toNat_nextCount] at closer others
      omega
  | free free rest ih =>
    rw [followUps_free free, ← runCount_perform_of_isFree free]
    exact ih (waits.free free)

/-- A task is not run by force. -/
theorem forceRun_notMem (alternates : job.Alternates waiting ops)
    (waits : job.Waits limit waiting) : .forceRun ∉ job.followUps ops := by
  induction alternates with
  | done => exact List.not_mem_nil
  | run rest ih => exact ih (waits.run _)
  | @apply job code now ops rest ih =>
    have unforced : (job.apply code now).1 ≠ .forceRun := fun forced => by
      have rescheduled := (waits.sent_back (congrArg FollowUp.isTerminal forced)).1
      rw [forced] at rescheduled
      contradiction
    exact List.not_mem_cons_of_ne_of_not_mem unforced.symm (ih (waits.apply now))
  | free free rest ih =>
    rw [followUps_free free]
    exact ih (waits.free free)

/-- **Retries come to an end.** Take a job whose work item is a task with an unchanging limit, and
a run in which attempts are made and their results are applied in turn, whatever happens in between
and in the course of the attempts. At most as many results send the job back as there are attempts
left after the first, so that one of the first results is final: of at most as many as there are
attempts left, or of one if there are none. Up to there, the attempts that the task is asked for
are numbered one after the other from the run count on. No result runs the job by force. -/
theorem retries_end (limit_eq : ∀ t, Relation.ReflTransGen Task.Moves job.work.task t →
      Task.retryLimit t = limit) (alternates : job.Alternates none ops) :
    let count := job.runCount.toNat
    let followUps := (job.events ops).filterMap followUp?
    let attempts := (job.observed.performAll ops).work.calls.filterMap Call.attempt?
    followUps.countP (!·.isTerminal) ≤ limit.toNat - 1 - count ∧
      (max 1 (limit.toNat - count) ≤ followUps.length →
        ∃ f ∈ followUps.take (max 1 (limit.toNat - count)), f.isTerminal = true) ∧
      (followUps.length ≤ attempts.length ∧ attempts.length ≤ followUps.length + 1) ∧
      (∀ i a, attempts[i]? = some a → (∀ f ∈ followUps.take i, f.isTerminal = false) →
        a.number.toNat = min (count + i + 1) (UInt32.size - 1)) ∧
      .forceRun ∉ followUps := by
  intro count followUps attempts
  have waits : job.Waits limit none := ⟨limit_eq, nofun, nofun⟩
  have heard : attempts = job.attempts ops := by
    rw [Job.attempts, ← calls_observed]
  have sent_back : followUps.countP (!·.isTerminal) ≤ limit.toNat - 1 - count :=
    alternates.countP_followUps waits
  have unforced : .forceRun ∉ followUps := alternates.forceRun_notMem waits
  rw [heard]
  refine ⟨sent_back, fun enough => ?_, alternates.length_attempts, alternates.number_attempt,
    unforced⟩
  -- if none of them were final, more results would send the job back than can be
  refine Classical.byContradiction fun none_final => ?_
  have all_open : ∀ f ∈ followUps.take (max 1 (limit.toNat - count)), !f.isTerminal := by
    simpa using none_final
  have counted : (followUps.take (max 1 (limit.toNat - count))).countP (!·.isTerminal) =
      max 1 (limit.toNat - count) := by
    rw [List.countP_eq_length.mpr all_open, List.length_take, Nat.min_eq_left enough]
  have among : (followUps.take (max 1 (limit.toNat - count))).countP (!·.isTerminal) ≤
      followUps.countP (!·.isTerminal) := (List.take_sublist _ followUps).countP_le
  omega

/-- A task that may run twenty times fails in its nineteenth and its twentieth attempt. -/
theorem retries_end_twentieth_attempt :
    let r : Record :=
      { id := "sync", persistent := true, priority := 3, groupId := none, runCount := 18
        createdAt := 0, delayUntil := .never, insertionOrder := none, session := ⟨1⟩
        windows := ⟨.never, .never⟩, deadline := .forever, cancelOnDeadline := false
        tags := none, retry := none }
    let failing : Rehearsal.Step := { failure := some "offline" }
    let job : Job (TaskWork PlainTask) := r.toJob { task := ⟨{ upcoming := [failing, failing] }⟩ }
    let ops : List Operation :=
      [.run 0, .setPriority 5, .apply .tryAgain 3, .run 2, .mark .cancelled, .apply .failRunLimit 9]
    (∀ t, Relation.ReflTransGen Task.Moves job.work.task t → Task.retryLimit t = 20) ∧
      job.Alternates none ops ∧
      job.followUps ops = [.reschedule, .cancel .reachedRetryLimit] ∧
      (job.attempts ops).map (·.number) = [19, 20] ∧
      (job.followUps ops).countP (!·.isTerminal) ≤ 1 ∧
      ∃ f ∈ (job.followUps ops).take 2, f.isTerminal = true := by
  intro r failing job ops
  have limit_eq (t : PlainTask) (_ : Relation.ReflTransGen Task.Moves job.work.task t) :
      Task.retryLimit t = 20 := rfl
  have alternates : job.Alternates none ops :=
    .run (.free rfl (.apply (.run (.free rfl (.apply (.done _ none))))))
  obtain ⟨once, final, -⟩ := retries_end limit_eq alternates
  exact ⟨limit_eq, alternates, by decide +kernel, by decide +kernel, once,
    final (by decide +kernel)⟩

end Alternates

end Limit

end Job

end DeferredJobs
