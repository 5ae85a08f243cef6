import DeferredJobs.Proofs.Job.Effects

/-!
# Jobs with the same record

What a job answers, and what its record is afterwards, is up to the record and to the outcome of
an attempt that is made. Nothing else has a part in it: not the last failure, not whether the work
item has been told of a cancellation, and not the work item.

* **Outcomes** (`Outcome.Alike`): attempts go alike if they have the same code, retry constraint,
  failure and marks.
* **Agreement** (`Job.Agrees`): jobs with the same record have the same answers, and the same record
  afterwards, as long as their attempts go alike (`Job.Agrees.perform`).
-/

namespace DeferredJobs

/-! ### Attempts that go alike -/

/-- The mark that a change makes. -/
def Change.mark? : Change → Option Mark
  | mark m => some m
  | _ => none

/-- The flags after an attempt are what its marks make of them, whatever the clock does. -/
theorem Scene.status_afterAll (scene : Scene) (changes : List Change) :
    (scene.afterAll changes).status =
      (changes.filterMap Change.mark?).foldl (fun status m => (status.mark m).2) scene.status := by
  induction changes generalizing scene with
  | nil => rfl
  | cons change changes ih =>
    rw [afterAll, List.foldl_cons]
    refine (ih _).trans ?_
    cases change <;> rfl

/-- Outcomes that are the same but for what happens to the clock. -/
structure Outcome.Alike (a b : Outcome) : Prop where
  code : b.code = a.code
  retry : b.retry = a.retry
  failure : b.failure = a.failure
  marks : b.changes.filterMap Change.mark? = a.changes.filterMap Change.mark?

theorem Outcome.Alike.of_eq {o o' : Outcome} (h : o' = o) : o.Alike o' :=
  h ▸ ⟨rfl, rfl, rfl, rfl⟩

/-- Replies that are the same but for the reading of the clock after an attempt. -/
inductive Reply.Alike : Reply → Reply → Prop
  | refl (r : Reply) : Alike r r
  | finished (code : ResultCode) (now now' : Nanos) :
      Alike (.finished code now) (.finished code now')

theorem Reply.Alike.of_eq {r r' : Reply} (h : r' = r) : r.Alike r' := h ▸ .refl r

theorem Reply.Alike.eq {r r' : Reply} (h : r.Alike r')
    (other : ∀ code now, r ≠ .finished code now) : r' = r := by
  cases h with
  | refl => rfl
  | finished code now => exact absurd rfl (other code now)

namespace Job

variable {ω ω' : Type}

/-! ### Agreement -/

/-- Jobs with the same record. -/
structure Agrees (a : Job ω) (b : Job ω') : Prop where
  profile : b.toProfile = a.toProfile
  status : b.status = a.status

namespace Agrees

variable {a : Job ω} {b : Job ω'}

theorem toRecord (h : a.Agrees b) : b.toRecord = a.toRecord := by
  rw [Job.toRecord, Job.toRecord, h.profile, h.status]

theorem eligibility (h : a.Agrees b) (now : Nanos) (network : Connectivity) :
    b.eligibility now network = a.eligibility now network := by
  rw [Job.eligibility, Job.eligibility, h.profile, h.status]

theorem nextWake (h : a.Agrees b) (now : Nanos) : b.nextWake now = a.nextWake now := by
  rw [Job.nextWake, Job.nextWake, h.profile]

/-- A change of the profile alone. -/
theorem update (h : a.Agrees b) (f : Profile → Profile) :
    Agrees { a with toProfile := f a.toProfile } { b with toProfile := f b.toProfile } :=
  ⟨congrArg f h.profile, h.status⟩

theorem assignInsertionOrder (h : a.Agrees b) (order : Int64) :
    (b.assignInsertionOrder order).1 = (a.assignInsertionOrder order).1 ∧
      (a.assignInsertionOrder order).2.Agrees (b.assignInsertionOrder order).2 := by
  rw [Job.assignInsertionOrder, Job.assignInsertionOrder, h.profile]
  split
  · exact ⟨rfl, h⟩
  · exact ⟨rfl, rfl, h.status⟩

theorem mark (h : a.Agrees b) (m : Mark) :
    (b.mark m).1 = (a.mark m).1 ∧ (a.mark m).2.Agrees (b.mark m).2 := by
  rw [Job.mark, Job.mark, h.status]
  exact ⟨rfl, h.profile, rfl⟩

theorem enforceDeadline (h : a.Agrees b) (now : Nanos) :
    (b.enforceDeadline now).1 = (a.enforceDeadline now).1 ∧
      (a.enforceDeadline now).2.Agrees (b.enforceDeadline now).2 := by
  rw [Job.enforceDeadline, Job.enforceDeadline, h.profile, h.status]
  split
  · exact ⟨rfl, h⟩
  · dsimp only
    split
    · exact ⟨rfl, rfl, rfl⟩
    · exact ⟨rfl, h⟩

theorem settle (h : a.Agrees b) (code : ResultCode) :
    (b.settle code).1 = (a.settle code).1 ∧ (a.settle code).2.Agrees (b.settle code).2 := by
  rw [Job.settle, Job.settle, h.profile]
  split
  · obtain ⟨recorded, after⟩ := h.mark .successful
    dsimp only
    rw [recorded]
    exact ⟨rfl, after⟩
  · exact ⟨rfl, h⟩

theorem retryApplied? (h : a.Agrees b) (code : ResultCode) :
    b.retryApplied? code = a.retryApplied? code := by
  rw [Job.retryApplied?, Job.retryApplied?, (h.settle code).1, h.profile]

theorem appliedStatus (h : a.Agrees b) (code : ResultCode) :
    b.appliedStatus code = a.appliedStatus code := by
  rw [Job.appliedStatus, Job.appliedStatus, (h.settle code).1, (h.settle code).2.status]

variable [Work ω] [Work ω']

theorem onCancel (h : a.Agrees b) (reason : CancelReason) :
    (a.onCancel reason).Agrees (b.onCancel reason) := by
  rw [onCancel_eq, onCancel_eq]
  exact ⟨h.profile, h.status⟩

theorem apply (h : a.Agrees b) (code : ResultCode) (now : Nanos) :
    (b.apply code now).1 = (a.apply code now).1 ∧
      (a.apply code now).2.Agrees (b.apply code now).2 := by
  refine ⟨(h.settle code).1, ?_⟩
  rw [apply_eq, apply_eq]
  refine ⟨?_, h.appliedStatus code⟩
  dsimp only
  rw [(h.settle code).1, h.retryApplied?, h.profile]

theorem run (h : a.Agrees b) {now : Nanos}
    (alike : (Work.run a.work (a.nextAttempt now)).2.Alike
      (Work.run b.work (b.nextAttempt now)).2) :
    (a.run now).2.Agrees (b.run now).2 where
  profile := by
    rw [Job.run, Job.run]
    dsimp only
    rw [alike.retry, h.profile]
  status := by
    have after (scene : Scene) := scene.status_afterAll
    have scene : (b.nextAttempt now).scene = (a.nextAttempt now).scene :=
      congrArg (Scene.mk now) h.status
    rw [Job.run, Job.run]
    dsimp only
    rw [after, after, alike.marks, scene]

/-- **Jobs that agree have the same answers** and agree afterwards, if their attempts go alike. -/
theorem perform (h : a.Agrees b) {op : Operation}
    (alike : ∀ now, op = .run now → (Work.run a.work (a.nextAttempt now)).2.Alike
      (Work.run b.work (b.nextAttempt now)).2) :
    (a.perform op).1.Alike (b.perform op).1 ∧ (a.perform op).2.Agrees (b.perform op).2 := by
  cases op with
  | setPriority priority =>
    exact ⟨.refl _, congrArg (fun p : Profile => { p with priority }) h.profile, h.status⟩
  | setRunCount runCount => exact ⟨.refl _, h.update fun p => { p with runCount }⟩
  | setCreatedAt createdAt => exact ⟨.refl _, h.update fun p => { p with createdAt }⟩
  | setDelayUntil delayUntil => exact ⟨.refl _, h.update fun p => { p with delayUntil }⟩
  | setSession session => exact ⟨.refl _, h.update fun p => { p with session }⟩
  | clearRetry => exact ⟨.refl _, h.update fun p => { p with retry := none }⟩
  | takeRetry =>
    have taken : b.retry = a.retry := congrArg Profile.retry h.profile
    exact ⟨.of_eq (congrArg Reply.taken taken), h.update fun p => { p with retry := none }⟩
  | assignInsertionOrder order =>
    obtain ⟨answer, after⟩ := h.assignInsertionOrder order
    exact ⟨.of_eq (congrArg Reply.accepted answer), after⟩
  | mark m =>
    obtain ⟨answer, after⟩ := h.mark m
    exact ⟨.of_eq (congrArg Reply.accepted answer), after⟩
  | enforceDeadline now =>
    obtain ⟨code, after⟩ := h.enforceDeadline now
    exact ⟨.of_eq (congrArg Reply.enforced code), after⟩
  | onCancel reason => exact ⟨.refl _, h.onCancel reason⟩
  | cancelAsDuplicate => exact ⟨.refl _, (h.mark .cancelledSingleId).2.onCancel _⟩
  | run now =>
    have same := alike now rfl
    have reply : (b.perform (.run now)).1 = .finished (a.run now).1.code (b.run now).1.now :=
      congrArg (Reply.finished · (b.run now).1.now) same.code
    exact ⟨reply ▸ .finished .., h.run same⟩
  | apply code now =>
    obtain ⟨answer, after⟩ := h.apply code now
    exact ⟨.of_eq (congrArg Reply.followUp answer), after⟩

end Agrees

end Job

end DeferredJobs
