import DeferredJobs.Job.Operation
import DeferredJobs.Proofs.Status.Marks

/-!
# What operations leave alone

`Job.EvolvesTo` bounds what any operation can do to a job: identity, tags and deadline stay; the
network windows stay or are sealed anew; a place in the queue stays once there is one; and the
flags move by marks. The relation is a preorder, so that it holds of whole histories as soon as
it holds of single operations: `Job.perform_evolvesTo`, `Job.performAll_evolvesTo`.
-/

namespace DeferredJobs

/-- Whatever happens around an attempt, the flags move by marks. -/
theorem Scene.trace_afterAll (scene : Scene) (changes : List Change) :
    ∃ marks, scene.status.Trace marks (scene.afterAll changes).status := by
  induction changes generalizing scene with
  | nil => exact ⟨[], .done _⟩
  | cons change changes ih =>
    obtain ⟨marks, rest⟩ := ih (scene.after change)
    cases change with
    | mark m => exact ⟨_, .marked rest⟩
    | setClock now => exact ⟨marks, rest⟩
    | advanceClock d => exact ⟨marks, rest⟩

namespace Job

variable {ω : Type}

/-- `a.EvolvesTo b`: what stays the same on the way from `a` to `b`, and how the rest may
change. Nothing is said of the fields that are not named. -/
structure EvolvesTo (a b : Job ω) : Prop where
  id : b.id = a.id
  persistent : b.persistent = a.persistent
  groupId : b.groupId = a.groupId
  tags : b.tags = a.tags
  deadline : b.deadline = a.deadline
  cancelOnDeadline : b.cancelOnDeadline = a.cancelOnDeadline
  windows : b.windows = a.windows ∨
    ∃ now network unmetered, b.windows = .sealedAt now network unmetered
  insertionOrder : ∀ order, a.insertionOrder = some order → b.insertionOrder = some order
  status : ∃ marks, a.status.Trace marks b.status

namespace EvolvesTo

variable {a b c : Job ω}

/-- The fields that operations change freely. -/
theorem of_free (a : Job ω) (priority : Int32) (runCount : UInt32) (createdAt : Nanos)
    (delayUntil : TimeBound) (session : SessionId) (retry : Option RetryConstraint)
    (lastFailure : Option Failure) (cancelNotified : Bool) (work : ω) :
    a.EvolvesTo { a with
      priority, runCount, createdAt, delayUntil, session, retry, lastFailure
      cancelNotified, work } :=
  ⟨rfl, rfl, rfl, rfl, rfl, rfl, .inl rfl, fun _ h => h, [], .done _⟩

theorem refl (a : Job ω) : a.EvolvesTo a := of_free ..

theorem trans (h : a.EvolvesTo b) (h' : b.EvolvesTo c) : a.EvolvesTo c where
  id := h'.id.trans h.id
  persistent := h'.persistent.trans h.persistent
  groupId := h'.groupId.trans h.groupId
  tags := h'.tags.trans h.tags
  deadline := h'.deadline.trans h.deadline
  cancelOnDeadline := h'.cancelOnDeadline.trans h.cancelOnDeadline
  windows := by
    obtain same | ⟨now, network, unmetered, sealed⟩ := h'.windows
    · rw [same]
      exact h.windows
    · exact .inr ⟨now, network, unmetered, sealed⟩
  insertionOrder order placed := h'.insertionOrder order (h.insertionOrder order placed)
  status := by
    obtain ⟨first, hf⟩ := h.status
    obtain ⟨later, hl⟩ := h'.status
    exact ⟨first ++ later, hf.append hl⟩

theorem of_windows (a : Job ω) (now : Nanos) (network unmetered : Timeout) :
    a.EvolvesTo { a with windows := .sealedAt now network unmetered } :=
  ⟨rfl, rfl, rfl, rfl, rfl, rfl, .inr ⟨now, network, unmetered, rfl⟩, fun _ h => h, [], .done _⟩

theorem of_trace (a : Job ω) {marks : List (Mark × Bool)} {status : Status}
    (h : a.status.Trace marks status) : a.EvolvesTo { a with status } :=
  ⟨rfl, rfl, rfl, rfl, rfl, rfl, .inl rfl, fun _ h => h, marks, h⟩

end EvolvesTo

/-! ### Simple changes -/

theorem mark_evolvesTo (job : Job ω) (m : Mark) : job.EvolvesTo (job.mark m).2 :=
  .of_trace job (.marked (.done _))

theorem assignInsertionOrder_evolvesTo (job : Job ω) (order : Int64) :
    job.EvolvesTo (job.assignInsertionOrder order).2 := by
  rw [assignInsertionOrder]
  split
  · exact .refl job
  · next unplaced =>
    refine ⟨rfl, rfl, rfl, rfl, rfl, rfl, .inl rfl, fun order placed => ?_, [], .done _⟩
    simp [placed] at unplaced

theorem enforceDeadline_evolvesTo (job : Job ω) (now : Nanos) :
    job.EvolvesTo (job.enforceDeadline now).2 := by
  simp only [enforceDeadline]
  split
  · exact .refl job
  · split
    · exact job.mark_evolvesTo .cancelled
    · exact .refl job

theorem settle_evolvesTo (job : Job ω) (code : ResultCode) :
    job.EvolvesTo (job.settle code).2 := by
  rw [settle]
  split
  · exact job.mark_evolvesTo .successful
  · exact .refl job

variable [Work ω]

theorem onCancel_evolvesTo (job : Job ω) (reason : CancelReason) :
    job.EvolvesTo (job.onCancel reason) := by
  rw [onCancel]
  split
  · exact .refl job
  · exact .of_free ..

theorem cancelAsDuplicate_evolvesTo (job : Job ω) : job.EvolvesTo job.cancelAsDuplicate :=
  (job.mark_evolvesTo _).trans (onCancel_evolvesTo _ _)

/-! ### Attempts and their results -/

theorem run_evolvesTo (job : Job ω) (now : Nanos) : job.EvolvesTo (job.run now).2 := by
  -- the work changes the flags only by marks, and the rest is what the attempt leaves
  obtain ⟨marks, trace⟩ := Scene.trace_afterAll (job.nextAttempt now).scene
    (Work.run job.work (job.nextAttempt now)).2.changes
  exact (EvolvesTo.of_trace job trace).trans (.of_free ..)

theorem applyRetry_evolvesTo (job : Job ω) (r : RetryConstraint) (now : Nanos) :
    job.EvolvesTo (job.applyRetry r now) := by
  simp only [applyRetry]
  cases r.newNetwork with
  | none => cases r.newDelay <;> cases r.newPriority <;> exact .of_free ..
  | some n =>
    -- the windows come last, so that the changes before them are free
    have resealed {job' : Job ω} (h : job.EvolvesTo job') :
        job.EvolvesTo { job' with windows := .sealedAt now n.network n.unmetered } :=
      h.trans (.of_windows ..)
    cases r.newDelay <;> cases r.newPriority <;> exact resealed (.of_free ..)

theorem apply_evolvesTo (job : Job ω) (code : ResultCode) (now : Nanos) :
    job.EvolvesTo (job.apply code now).2 := by
  refine (job.settle_evolvesTo code).trans ?_
  rw [apply]
  dsimp only
  generalize (job.settle code).2 = job
  -- nothing is pending any more, whichever way the job goes on
  have cleared : job.EvolvesTo { job with retry := none } := .of_free ..
  split
  · exact cleared
  · exact (cleared.trans (mark_evolvesTo _ _)).trans (onCancel_evolvesTo _ _)
  · split
    · exact (EvolvesTo.of_free ..).trans (applyRetry_evolvesTo _ _ _)
    · exact .of_free ..
  · exact .of_free ..

/-! ### Histories -/

/-- **One operation.** -/
theorem perform_evolvesTo (job : Job ω) (op : Operation) : job.EvolvesTo (job.perform op).2 := by
  cases op with
  | setPriority | setRunCount | setCreatedAt | setDelayUntil | setSession => exact .of_free ..
  | takeRetry | clearRetry => exact .of_free ..
  | assignInsertionOrder order => exact job.assignInsertionOrder_evolvesTo order
  | mark m => exact job.mark_evolvesTo m
  | enforceDeadline now => exact job.enforceDeadline_evolvesTo now
  | onCancel reason => exact job.onCancel_evolvesTo reason
  | cancelAsDuplicate => exact job.cancelAsDuplicate_evolvesTo
  | run now => exact job.run_evolvesTo now
  | apply code now => exact job.apply_evolvesTo code now

/-- **Any number of operations.** -/
theorem performAll_evolvesTo (job : Job ω) (ops : List Operation) :
    job.EvolvesTo (job.performAll ops) := by
  induction ops generalizing job with
  | nil => exact .refl job
  | cons op ops ih => exact (job.perform_evolvesTo op).trans (ih _)

end Job

end DeferredJobs
