import DeferredJobs.Proofs.Job.Invariants
import DeferredJobs.Proofs.Job.Observation
import DeferredJobs.Work.Rehearsal

/-!
# The priority that a work item knows

The priority of a job is kept twice, by the job and by its work item, which learns it when the job
is made and is told whenever it changes.

* **Calls** (`Work.Retains`): what a work item was told last can be read off an `Observed` one, and
  off a `TaskWork`, which keeps it.
* **Operations** (`Job.priority_perform`): the priority changes by a call that tells of it, and in
  no other way. So once both sides agree, they agree for good (`Work.Retains.performAll`).
* **New jobs** (`Job.Constructed.exists_absorb`): the last that a work item hears while a job is
  made is the record of the job, priority included. The work item can be observed at that point
  already (`Job.Constructed.exists_observed`), whatever it may have heard before.

`Job.priority_known_to_work` puts this together.
-/

namespace DeferredJobs

variable {ω : Type}

/-! ### Calls that tell the priority -/

namespace Call

/-- The priority that a call tells of. -/
def priority? : Call → Option Int32
  | absorb r => some r.priority
  | setPriority priority => some priority
  | _ => none

/-- The priority that calls tell of last. -/
def lastPriority? (calls : List Call) : Option Int32 := (calls.filterMap priority?).getLast?

theorem lastPriority?_concat (calls : List Call) (c : Call) :
    lastPriority? (calls ++ [c]) = c.priority?.or (lastPriority? calls) := by
  rw [lastPriority?, List.filterMap_append, List.getLast?_append, lastPriority?]
  cases c <;> rfl

end Call

/-- `told` reads off a work item the priority that it was told last. -/
def Work.Retains [Work ω] (told : ω → Option Int32) : Prop :=
  ∀ (w : ω) (c : Call), told (c.on w) = c.priority?.or (told w)

/-- An observer can tell from its list. -/
theorem Observed.retains [Work ω] :
    Work.Retains fun w : Observed ω => Call.lastPriority? w.calls := by
  intro w c
  cases c with
  | run | onCancel | absorb | setPriority => exact Call.lastPriority?_concat w.calls _

namespace TaskWork

variable {τ : Type} [Task τ]

theorem priority_run (w : TaskWork τ) (a : Attempt) : (w.run a).1.priority = w.priority := by
  rw [run]
  dsimp only
  split
  · rfl
  · split <;> rfl

/-- A task keeps what its job said last. -/
theorem retains : Work.Retains fun w : TaskWork τ => some w.priority := by
  intro w c
  cases c with
  | run a outcome => exact congrArg some (w.priority_run a)
  | onCancel | absorb | setPriority => rfl

end TaskWork

/-! ### Operations -/

namespace Job

theorem priority?_notice? (job : Job ω) (reason : CancelReason) :
    (job.notice? reason).bind (·.priority?) = none := by
  rw [notice?]
  split <;> rfl

theorem retryApplied?_of_reason {job : Job ω} {code : ResultCode} {reason : CancelReason}
    (h : (job.settle code).1.reason? = some reason) : job.retryApplied? code = none := by
  rw [retryApplied?, if_neg]
  intro reschedules
  rw [reschedules] at h
  contradiction

variable [Work ω]

/-- **The priority changes by a call** that tells of it, and not without one. -/
theorem priority_perform (job : Job ω) (op : Operation) :
    (job.perform op).2.priority =
      ((job.callOf? op).bind (·.priority?)).getD job.priority := by
  have noticed (job : Job ω) (reason : CancelReason) : (job.onCancel reason).priority =
      ((job.notice? reason).bind (·.priority?)).getD job.priority := by
    rw [onCancel_eq, priority?_notice?]
    rfl
  cases op with
  | onCancel reason => exact noticed job reason
  | cancelAsDuplicate => exact noticed (job.mark .cancelledSingleId).2 _
  | assignInsertionOrder order =>
    rw [perform, assignInsertionOrder_eq]
    rfl
  | enforceDeadline now =>
    rw [perform, enforceDeadline_eq]
    rfl
  | apply code now =>
    rw [perform, apply_eq, callOf?_apply]
    cases outcome : (job.settle code).1.reason? with
    | some reason =>
      rw [retryApplied?_of_reason outcome]
      dsimp only
      rw [priority?_notice?]
      rfl
    | none => cases (job.retryApplied? code).bind (·.newPriority) <;> rfl
  | _ => rfl

end Job

namespace Work.Retains

variable [Work ω] {told : ω → Option Int32} {job : Job ω}

theorem perform (retains : Work.Retains told) (agreed : told job.work = some job.priority)
    (op : Operation) :
    told (job.perform op).2.work = some (job.perform op).2.priority := by
  rw [Job.work_perform, Job.priority_perform]
  cases job.callOf? op with
  | none => exact agreed
  | some c =>
    rw [Option.elim_some, retains, agreed, Option.bind_some]
    cases c.priority? <;> rfl

/-- **Both sides agree for good.** -/
theorem performAll (retains : Work.Retains told) (agreed : told job.work = some job.priority)
    (ops : List Operation) :
    told (job.performAll ops).work = some (job.performAll ops).priority := by
  induction ops generalizing job with
  | nil => exact agreed
  | cons op ops ih => exact ih (retains.perform agreed op)

end Work.Retains

/-! ### New jobs -/

/-- The same setting with another work item, if it supplies one. -/
def Setting.map {ω' : Type} (f : ω → ω') : Setting ω → Setting ω'
  | .work v => .work (f v)
  | .id v => .id v
  | .persistent v => .persistent v
  | .priority v => .priority v
  | .groupId v => .groupId v
  | .createdAt v => .createdAt v
  | .delayUntil v => .delayUntil v
  | .session v => .session v
  | .networkUntil v => .networkUntil v
  | .unmeteredUntil v => .unmeteredUntil v
  | .windows now network unmetered => .windows now network unmetered
  | .runCount v => .runCount v
  | .insertionOrder v => .insertionOrder v
  | .deadline v ends => .deadline v ends
  | .tags v => .tags v

namespace Builder

variable {ω' : Type}

/-- The parts with another work item, if there is one. -/
def map (f : ω → ω') (b : Builder ω) : Builder ω' := { b with work := b.work.map f }

theorem set_map (f : ω → ω') (b : Builder ω) (s : Setting ω) :
    (b.map f).set (s.map f) = (b.set s).map f := by
  cases s <;> rfl

theorem ofSettings_map (f : ω → ω') (settings : List (Setting ω)) :
    ofSettings (settings.map (·.map f)) = (ofSettings settings).map f := by
  suffices carried : ∀ b : Builder ω,
      (settings.map (·.map f)).foldl set (b.map f) = (settings.foldl set b).map f from carried {}
  induction settings with
  | nil => exact fun _ => rfl
  | cons s settings ih =>
    intro b
    rw [List.map_cons, List.foldl_cons, set_map, ih, List.foldl_cons]

end Builder

namespace Job.Constructed

variable [Work ω] {job : Job ω}

/-- **A new job has told its work item** what it is. -/
theorem exists_absorb (made : job.Constructed) :
    ∃ work, job.work = Work.absorb work job.toRecord := by
  cases made with
  | built settings h =>
    obtain ⟨-, -, work, -, rfl⟩ := Builder.exists_work_of_build h
    exact ⟨work, rfl⟩
  | restored r work h =>
    obtain ⟨-, -, rfl⟩ := restore_eq_ok_iff.mp h
    exact ⟨work, rfl⟩

/-- **From the first day on**, both sides agree. -/
theorem told_priority (made : job.Constructed) {told : ω → Option Int32}
    (retains : Work.Retains told) (ops : List Operation) :
    told (job.performAll ops).work = some (job.performAll ops).priority := by
  obtain ⟨work, learnt⟩ := made.exists_absorb
  refine retains.performAll ?_ ops
  rw [learnt]
  exact retains work (.absorb job.toRecord)

/-- The same job can be made with its work item under observation, whatever the work item has heard
before. All that it hears while the job is made is the record of the job. -/
theorem exists_observed (made : job.Constructed) (earlier : List Call) :
    ∃ watched : Job (Observed ω), watched.Constructed ∧ watched.map Observed.work = job ∧
      watched.work.calls = earlier ++ [.absorb job.toRecord] := by
  let watch (work : ω) : Observed ω := ⟨work, earlier⟩
  cases made with
  | built settings h =>
    obtain ⟨complete, named, work, supplied, rfl⟩ := Builder.exists_work_of_build h
    let parts : Builder (Observed ω) := (Builder.ofSettings settings).map watch
    have watched : parts.build = .ok _ :=
      parts.build_of_complete complete named (congrArg (Option.map watch) supplied)
    have carried := congrArg Builder.build (Builder.ofSettings_map watch settings)
    exact ⟨_, .built _ (carried.trans watched), rfl, rfl⟩
  | restored r work h =>
    obtain ⟨consistent, named, rfl⟩ := restore_eq_ok_iff.mp h
    have watched : restore r (watch work) = .ok _ :=
      restore_eq_ok_iff.mpr ⟨consistent, named, rfl⟩
    exact ⟨_, .restored _ _ watched, rfl, rfl⟩

end Job.Constructed

/-! ### All in all -/

namespace Job

/-- **A work item knows the priority of its job.** Take a job that was built or restored, with any
work item, and keep a list of the calls of the work item from the start, behind any calls that it
has had before; this changes nothing otherwise. While the job is made, the work item learns its
record and hears nothing else. After any operations, the priority that it was told last, be it with
a record or by itself, is that of the job. So where the work item is made of a task, both know the
same priority in every state that the job can reach, whichever priority the work item had before
the job was made. -/
theorem priority_known_to_work [Work ω] {τ : Type} [Task τ] :
    (∀ job : Job ω, job.Constructed → ∀ earlier : List Call,
      ∃ watched : Job (Observed ω), watched.Constructed ∧ watched.map Observed.work = job ∧
        watched.work.calls = earlier ++ [.absorb job.toRecord] ∧
        ∀ ops : List Operation, let later := watched.performAll ops
          later.map Observed.work = job.performAll ops ∧
            Call.lastPriority? later.work.calls = some (job.performAll ops).priority) ∧
    ∀ job : Job (TaskWork τ), job.Reachable → job.work.priority = job.priority := by
  constructor
  · intro job made earlier
    obtain ⟨watched, made', rfl, heard⟩ := made.exists_observed earlier
    refine ⟨watched, made', rfl, heard, fun ops => ?_⟩
    have same : (watched.performAll ops).map Observed.work =
        (watched.map Observed.work).performAll ops :=
      (performAll_map Observed.hom_work watched ops).symm
    refine ⟨same, ?_⟩
    rw [← same]
    exact made'.told_priority Observed.retains ops
  · rintro - ⟨made, constructed, ops, rfl⟩
    exact Option.some.inj (constructed.told_priority TaskWork.retains ops)

/-- The work item had priority 7 before it was built into a job of priority 3. A failed attempt asks
for priority 9, which takes effect once its result is applied. -/
theorem priority_known_to_work_after_retry :
    let failing : Rehearsal.Step :=
      { failure := some "offline"
        retry := some (.fixed (RetryConstraint.again.withPriority 9)) }
    let work : TaskWork ScriptedTask := { task := ⟨⟨[failing], {}, [], 3⟩⟩, priority := 7 }
    let settings : List (Setting (TaskWork ScriptedTask)) :=
      [.id "sync", .persistent true, .priority 3, .groupId none, .work work, .createdAt 10,
        .delayUntil .never, .session ⟨1⟩, .networkUntil .never, .unmeteredUntil .never]
    ∃ job, (Builder.ofSettings settings).build = .ok job ∧ job.work.priority = 3 ∧
      (job.performAll [.run 20]).work.priority = 3 ∧
      (job.performAll [.run 20, .apply .tryAgain 30]).priority = 9 ∧
      (job.performAll [.run 20, .apply .tryAgain 30]).work.priority = 9 ∧
      ∃ watched : Job (Observed (TaskWork ScriptedTask)),
        watched.work.calls = [.setPriority 7, .absorb job.toRecord] ∧
        Call.lastPriority?
          (watched.performAll [.run 20, .apply .tryAgain 30]).work.calls = some 9 := by
  intro failing work settings
  have built : ∃ job, (Builder.ofSettings settings).build = .ok job := ⟨_, rfl⟩
  obtain ⟨job, h⟩ := built
  have made : job.Constructed := .built settings h
  obtain ⟨known, agreed⟩ :=
    priority_known_to_work (ω := TaskWork ScriptedTask) (τ := ScriptedTask)
  obtain ⟨watched, -, -, heard, told⟩ := known job made [.setPriority 7]
  have told' := (told [.run 20, .apply .tryAgain 30]).2
  have agreed' (ops : List Operation) := agreed (job.performAll ops) ⟨job, made, ops, rfl⟩
  refine ⟨job, h, (agreed' []).trans ?_, (agreed' _).trans ?_, ?_, (agreed' _).trans ?_, watched,
    heard, told'.trans ?_⟩
  all_goals
    obtain rfl := Except.ok.inj h
    rfl

end Job

end DeferredJobs
