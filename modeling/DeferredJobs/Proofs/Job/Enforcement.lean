import DeferredJobs.Proofs.Job.Deadline
import DeferredJobs.Proofs.Job.Results

/-!
# Enforcing deadlines

Two functions look at the deadline of a job. `Job.eligibility` says that the job hit it, and
`Job.enforceDeadline` cancels the job and answers with the code to apply. They are written down
independently of each other.

* **One rule** (`Job.HitsDeadline`): the job is pending, its deadline has passed, and the deadline
  ends the job. `Job.eligibility_eq_hitDeadline_iff` and `Job.enforceDeadline_of_hits` say that both
  functions follow it.
* **Quiet operations** (`Operation.isQuiet`) may come before the code is applied: they tell the work
  item nothing of a cancellation, and the job remembers the same failure.
* **A request** (`Job.cancellations_of_request`) settles what the work item hears of cancellations
  in the whole life of the job.
* **A history** (`Job.countP_enforced_le`): a deadline is enforced once, because it leaves a mark
  that no operation takes back.

`Job.Constructed.deadline_enforced_once` puts this together.
-/

namespace DeferredJobs

/-- An operation that neither makes an attempt, nor applies a result, nor asks for the work item to
be told of a cancellation. -/
def Operation.isQuiet : Operation → Bool
  | .onCancel _ | .cancelAsDuplicate | .run _ | .apply _ _ => false
  | _ => true

namespace Job

variable {ω : Type} {job : Job ω} {now t : Nanos} {network : Connectivity}

/-! ### One rule -/

/-- The job is pending, and its deadline has passed and ends it. -/
structure HitsDeadline (job : Job ω) (now : Nanos) : Prop where
  pending : job.state = .pending
  expired : job.constraints.Expired now
  ends : job.cancelOnDeadline = true

theorem HitsDeadline.flags (hits : job.HitsDeadline now) (coherent : job.status.Coherent) :
    job.status = JobState.pending.flags := by
  rw [← hits.pending, state, coherent.flags_state]

/-- The connectivity has no part in it. -/
theorem eligibility_eq_hitDeadline_iff :
    job.eligibility now network = .hitDeadline ↔ job.HitsDeadline now := by
  constructor
  · intro hit
    have pending : job.state = .pending := by
      rw [eligibility_eq] at hit
      cases current : job.state with
      | pending => rfl
      | cancelled | successful =>
        rw [current] at hit
        contradiction
    rw [eligibility_of_pending pending] at hit
    obtain ⟨expired, ends⟩ := Constraints.evaluate_eq_hitDeadline_iff.mp hit
    exact ⟨pending, expired, ends⟩
  · rintro ⟨pending, expired, ends⟩
    rw [eligibility_of_pending pending]
    exact Constraints.evaluate_of_ends expired ends

/-- The guard of the enforcement. -/
theorem unguarded_iff : (!job.cancelOnDeadline || job.deadline.isPending now) = false ↔
    job.cancelOnDeadline = true ∧ job.constraints.Expired now := by
  have passed : job.deadline.isPending now = false ↔ job.constraints.Expired now :=
    TimeBound.isPending_eq_false_iff
  rw [Bool.or_eq_false_iff, Bool.not_eq_false', passed]

theorem enforceDeadline_of_hits (coherent : job.status.Coherent) (hits : job.HitsDeadline now) :
    job.enforceDeadline now =
      (some .hitDeadline, { job with status := (JobState.cancelled false).flags }) := by
  rw [enforceDeadline, unguarded_iff.mpr ⟨hits.ends, hits.expired⟩, hits.flags coherent]
  rfl

theorem enforceDeadline_of_not_hits (coherent : job.status.Coherent)
    (spared : ¬job.HitsDeadline now) : job.enforceDeadline now = (none, job) := by
  rw [enforceDeadline]
  split
  · rfl
  · next unguarded =>
    obtain ⟨ends, expired⟩ := unguarded_iff.mp (Bool.eq_false_iff.mpr unguarded)
    -- the job has ended before, so that the mark is refused
    have refused : job.status.markCancelled.1 = false := by
      rw [← coherent.flags_state]
      cases current : job.status.state with
      | pending => exact absurd ⟨current, expired, ends⟩ spared
      | cancelled | successful => rfl
    dsimp only
    rw [refused]
    rfl

theorem enforceDeadline_eq_some_iff (coherent : job.status.Coherent) :
    (job.enforceDeadline now).1 = some .hitDeadline ↔ job.HitsDeadline now := by
  refine ⟨fun answer => Classical.byContradiction fun spared => ?_, fun hits => ?_⟩
  · rw [enforceDeadline_of_not_hits coherent spared] at answer
    contradiction
  · rw [enforceDeadline_of_hits coherent hits]

/-- An enforced deadline leaves a mark that was not there before. -/
theorem cancelled_of_enforced (answer : (job.enforceDeadline now).1.isSome = true) :
    job.status.cancelled = false ∧ (job.enforceDeadline now).2.status.cancelled = true := by
  rw [enforceDeadline] at answer ⊢
  split at answer
  · contradiction
  · next unguarded =>
    rw [if_neg unguarded]
    rw [Status.markCancelled] at answer ⊢
    grind

/-! ### Quiet operations -/

variable [Work ω] {op : Operation} {reason : CancelReason}

theorem perform_of_isQuiet (job : Job ω) (quiet : op.isQuiet = true) :
    (job.callOf? op).any (·.isCancellation) = false ∧
      (job.perform op).2.lastFailure = job.lastFailure := by
  have silent : cancelRequest? (op, (job.perform op).1) = none := by
    cases op <;> first | rfl | contradiction
  have idle : (job.callOf? op).bind (·.failure?) = none := by
    refine callOf?_of_ne_run (fun _ => Call.failure?_eq_none) job fun now run => ?_
    rw [run] at quiet
    contradiction
  rw [lastFailure_perform, idle, Option.none_or]
  exact ⟨callOf?_of_no_request silent, rfl⟩

/-- What the work item hears of cancellations. -/
def cancellations (job : Job ω) (ops : List Operation) : List Call :=
  (job.calls ops).filter (·.isCancellation)

theorem cancellations_append (job : Job ω) (before after : List Operation) :
    job.cancellations (before ++ after) =
      job.cancellations before ++ (job.performAll before).cancellations after := by
  rw [cancellations, calls_append, List.filter_append]
  rfl

theorem performAll_of_quiet (job : Job ω) {ops : List Operation}
    (quiet : ∀ op ∈ ops, op.isQuiet = true) :
    job.cancellations ops = [] ∧ (job.performAll ops).lastFailure = job.lastFailure := by
  induction ops generalizing job with
  | nil => exact ⟨rfl, rfl⟩
  | cons op ops ih =>
    obtain ⟨first, others⟩ := List.forall_mem_cons.mp quiet
    obtain ⟨silent, same⟩ := job.perform_of_isQuiet first
    obtain ⟨silent', same'⟩ := ih (job.perform op).2 others
    refine ⟨?_, same'.trans same⟩
    have unheard : (job.callOf? op).toList.filter (·.isCancellation) = [] := by
      cases call : job.callOf? op <;> simp_all
    rw [cancellations, calls, List.filter_append, unheard]
    exact silent'

/-- Quiet operations that come last make no difference. -/
theorem quiet_suffix (job : Job ω) (before : List Operation) {after : List Operation}
    (quiet : ∀ op ∈ after, op.isQuiet = true) :
    job.cancellations (before ++ after) = job.cancellations before ∧
      (job.performAll (before ++ after)).lastFailure = (job.performAll before).lastFailure := by
  have later : job.performAll (before ++ after) = (job.performAll before).performAll after :=
    List.foldl_append
  obtain ⟨silent, same⟩ := (job.performAll before).performAll_of_quiet quiet
  rw [cancellations_append, silent, List.append_nil, later]
  exact ⟨rfl, same⟩

/-! ### A request -/

/-- A work item that has been told is not told again. -/
theorem cancellations_of_notified (notified : job.cancelNotified = true) (ops : List Operation) :
    job.cancellations ops = [] := by
  have none_told := job.countP_calls ops
  rw [notified] at none_told
  exact List.length_eq_zero_iff.mp ((List.countP_eq_length_filter ..).symm.trans none_told)

theorem cancellations_eq_nil_iff (unnotified : job.cancelNotified = false)
    (ops : List Operation) :
    job.cancellations ops = [] ↔ (job.performAll ops).cancelNotified = false := by
  rw [cancelNotified_eq_false_iff unnotified, cancellations, List.filter_eq_nil_iff]
  exact forall₂_congr fun _ _ => Bool.eq_false_iff.symm

/-- **All that is ever heard** of cancellations, if the work item is to be told. -/
theorem cancellations_of_request {before after : List Operation}
    (unnotified : job.cancelNotified = false)
    (request : cancelRequest? (op, ((job.performAll before).perform op).1) = some reason) :
    job.cancellations (before ++ op :: after) =
      if job.cancellations before = [] then
        [.onCancel reason (job.performAll before).lastFailure]
      else job.cancellations before := by
  have told : ((job.performAll before).perform op).2.cancelNotified = true := by
    rw [cancelNotified_perform, request]
    rfl
  rw [cancellations_append]
  cases notified : (job.performAll before).cancelNotified with
  | true =>
    have heard : ¬job.cancellations before = [] := by
      rw [cancellations_eq_nil_iff unnotified, notified]
      nofun
    rw [if_neg heard, cancellations_of_notified notified, List.append_nil]
  | false =>
    have unheard : job.cancellations before = [] :=
      (cancellations_eq_nil_iff unnotified before).mpr notified
    have notice : (job.performAll before).callOf? op =
        some (.onCancel reason (job.performAll before).lastFailure) :=
      callOf?_eq_onCancel_iff.mpr ⟨request, notified, rfl⟩
    rw [if_pos unheard, unheard, List.nil_append, cancellations, calls, notice,
      List.filter_append]
    exact congrArg (_ :: ·) (cancellations_of_notified told after)

/-! ### Histories -/

/-- Whether a deadline was enforced. -/
def enforced : Operation × Reply → Bool
  | (_, .enforced code) => code.isSome
  | _ => false

/-- An operation that enforces the deadline finds the job without the mark that it leaves. -/
theorem enforced_perform (job : Job ω) (op : Operation) :
    (if enforced (op, (job.perform op).1) then 1 else 0) + job.status.cancelled.toNat ≤
      (job.perform op).2.status.cancelled.toNat := by
  split
  · next answer =>
    cases op with
    | enforceDeadline now =>
      obtain ⟨before, after⟩ := cancelled_of_enforced answer
      change 1 + _ ≤ (job.enforceDeadline now).2.status.cancelled.toNat
      rw [before, after]
      exact Nat.le_refl 1
    | _ => contradiction
  · obtain ⟨marks, trace⟩ := (job.perform_evolvesTo op).status
    rw [Nat.zero_add]
    cases cancelled : job.status.cancelled with
    | false => exact Nat.zero_le _
    | true => exact Nat.le_of_eq (congrArg Bool.toNat (trace.le.1 cancelled).symm)

/-- Each deadline that is enforced counts, and there is one mark to leave. -/
theorem countP_enforced_le (job : Job ω) (ops : List Operation) :
    (job.events ops).countP enforced + job.status.cancelled.toNat ≤
      (job.performAll ops).status.cancelled.toNat :=
  countP_events_add_le enforced_perform job ops

/-- The deadline of a cancelled job is not enforced any more, whatever happens to the job. -/
theorem Sound.enforceDeadline_live (sound : job.Sound) {singleId : Bool}
    (cancelled : job.state = .cancelled singleId) (episodes : List (Episode ω)) :
    ∃ later, job.live episodes = .ok later ∧ ∀ t, later.enforceDeadline t = (none, later) := by
  obtain ⟨later, lived, evolved⟩ := sound.exists_live episodes
  obtain ⟨gained, stays⟩ := evolved.state_of_cancelled sound.coherent cancelled
  refine ⟨later, lived, fun t => enforceDeadline_of_not_hits (evolved.sound sound).coherent ?_⟩
  rintro ⟨pending, -, -⟩
  rw [stays] at pending
  contradiction

/-- The reply to the code of a deadline, if deadlines end the job. -/
theorem request_of_ends (ends : job.cancelOnDeadline = true) (t : Nanos) :
    (job.apply .hitDeadline t).1 = .cancel .reachedDeadline := by
  have settled : (job.apply .hitDeadline t).1 = (job.settle .hitDeadline).1 := rfl
  rw [settled, settle_of_ne_success (by decide), ends]
  rfl

/-- **A deadline is enforced once.** Take a job that was built or restored, after any operations,
and any instant. To enforce its deadline then has an effect exactly if the job is told that it hits
the deadline, over some network, which is as good as over every network. Otherwise nothing changes.

If there is an effect, the job is cancelled, and nothing else changes of what is stored of it. When
the code is applied later, at any time and after any other operations, the reply is to cancel the
job for its deadline. This is all that the work item ever hears of cancellations, unless it was told
before; and it cannot have been told by quiet operations such as setters and marks, which leave
alone the failure that it is told of, too. Whatever happens to the job, restarts included, its
deadline has no such effect again.

In the whole history of a job there is one such effect at most. -/
theorem Constructed.deadline_enforced_once (made : job.Constructed) (ops : List Operation)
    (now : Nanos) :
    let heard (ops : List Operation) :=
      (job.observed.performAll ops).work.calls.filter (·.isCancellation)
    let current := job.performAll ops
    let hit := (current.enforceDeadline now).1 = some .hitDeadline
    let after := (current.enforceDeadline now).2
    ((hit ↔ ∃ network, current.eligibility now network = .hitDeadline) ∧
      (hit ↔ ∀ network, current.eligibility now network = .hitDeadline)) ∧
    (¬hit → current.enforceDeadline now = (none, current)) ∧
    (hit →
      after = { current with status := (JobState.cancelled false).flags } ∧
      after.toRecord = { current.toRecord with cancelled := true } ∧
      after.state = .cancelled false ∧
      (∀ between t rest,
        let applying := ops ++ .enforceDeadline now :: between
        let failure := (job.performAll applying).lastFailure
        ((job.performAll applying).apply .hitDeadline t).1 = .cancel .reachedDeadline ∧
        heard (applying ++ .apply .hitDeadline t :: rest) =
          (if heard applying = [] then [.onCancel .reachedDeadline failure]
          else heard applying) ∧
        ((∀ op ∈ between, op.isQuiet = true) →
          heard applying = heard ops ∧ failure = current.lastFailure)) ∧
      ∀ episodes, ∃ later, after.live episodes = .ok later ∧
        ∀ t, later.enforceDeadline t = (none, later)) ∧
    (job.events ops).countP enforced ≤ 1 := by
  intro heard current hit after
  have heard_eq (ops : List Operation) : heard ops = job.cancellations ops :=
    congrArg (List.filter _) (job.calls_observed ops)
  have sound : current.Sound := made.sound_performAll ops
  have hit_iff : hit ↔ current.HitsDeadline now := enforceDeadline_eq_some_iff sound.coherent
  refine ⟨⟨?_, ?_⟩, fun spared => enforceDeadline_of_not_hits sound.coherent (mt hit_iff.mpr spared),
    fun h => ?_, ?_⟩
  · rw [hit_iff]
    exact ⟨fun hits => ⟨.disconnected, eligibility_eq_hitDeadline_iff.mpr hits⟩,
      fun ⟨_, told⟩ => eligibility_eq_hitDeadline_iff.mp told⟩
  · rw [hit_iff]
    exact ⟨fun hits _ => eligibility_eq_hitDeadline_iff.mpr hits,
      fun told => eligibility_eq_hitDeadline_iff.mp (told .disconnected)⟩
  · have hits := hit_iff.mp h
    have after_eq : after = { current with status := (JobState.cancelled false).flags } :=
      congrArg Prod.snd (enforceDeadline_of_hits sound.coherent hits)
    have cancelled : after.state = .cancelled false := by
      rw [after_eq]
      rfl
    have evolved : current.EvolvesTo after := current.enforceDeadline_evolvesTo now
    refine ⟨after_eq, ?_, cancelled, fun between t rest => ?_,
      (evolved.sound sound).enforceDeadline_live cancelled⟩
    · rw [after_eq, toRecord, toRecord, hits.flags sound.coherent]
      rfl
    · intro applying failure
      have ends : (job.performAll applying).cancelOnDeadline = true :=
        (job.performAll_evolvesTo applying).cancelOnDeadline.trans
          ((job.performAll_evolvesTo ops).cancelOnDeadline.symm.trans hits.ends)
      have reply := request_of_ends ends t
      rw [heard_eq, heard_eq, heard_eq]
      refine ⟨reply, cancellations_of_request made.unnotified.2 (congrArg (·.reason?) reply),
        fun quiet => job.quiet_suffix ops (List.forall_mem_cons.mpr ⟨rfl, quiet⟩)⟩
  · have counted := job.countP_enforced_le ops
    have most := Bool.toNat_le (job.performAll ops).status.cancelled
    omega

/-- A job fails, is sent back, and hits its deadline while it is delayed. Before the code is applied,
someone marks it as successful. -/
theorem deadline_enforced_once_while_delayed :
    let r : Record :=
      { id := "sync", persistent := true, priority := 3, groupId := none, runCount := 0
        createdAt := 0, delayUntil := .never, insertionOrder := none, session := ⟨1⟩
        windows := ⟨.never, .never⟩, deadline := .upTo 40, cancelOnDeadline := true
        tags := none, retry := none }
    let again : Rehearsal.Step :=
      { code := .tryAgain, failure := some "offline"
        retry := some (.fixed (RetryConstraint.again.withDelay (.ofMillis 5))) }
    let ops : List Operation := [.run 20, .apply .tryAgain 30]
    let applying : List Operation :=
      ops ++ .enforceDeadline 40 :: [.setPriority 1, .mark .successful]
    ∃ job : Job ScriptedWork, restore r ⟨⟨[again], {}, [], 3⟩⟩ = .ok job ∧
      (job.performAll ops).delayUntil = .upTo 5000030 ∧
      ((job.performAll ops).enforceDeadline 40).1 = some .hitDeadline ∧
      ((job.performAll applying).apply .hitDeadline 50).1 = .cancel .reachedDeadline ∧
      (job.observed.performAll
          (applying ++ [.apply .hitDeadline 50, .cancelAsDuplicate])).work.calls.filter
        (·.isCancellation) = [.onCancel .reachedDeadline (some ⟨"offline"⟩)] ∧
      (job.events applying).countP enforced ≤ 1 := by
  intro r again ops applying
  have accepted : ∃ job : Job ScriptedWork, restore r ⟨⟨[again], {}, [], 3⟩⟩ = .ok job := ⟨_, rfl⟩
  obtain ⟨job, h⟩ := accepted
  have made : job.Constructed := .restored r _ h
  obtain ⟨⟨hit_iff, -⟩, -, effect, -⟩ := made.deadline_enforced_once ops 40
  obtain ⟨-, -, -, once⟩ := made.deadline_enforced_once applying 60
  obtain rfl := Except.ok.inj h
  have hit := hit_iff.mpr ⟨.disconnected, rfl⟩
  obtain ⟨-, -, -, applied, -⟩ := effect hit
  obtain ⟨reply, heard, quiet⟩ := applied [.setPriority 1, .mark .successful] 50 [.cancelAsDuplicate]
  obtain ⟨untold, failure⟩ := quiet (by decide)
  have told := heard.trans (if_pos (untold.trans rfl))
  exact ⟨_, h, rfl, hit, reply,
    told.trans (congrArg (fun failure => [Call.onCancel .reachedDeadline failure]) failure), once⟩

end Job

end DeferredJobs
