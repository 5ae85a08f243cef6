import DeferredJobs.Proofs.Job.Agreement

/-!
# Observing work items

A job does not look into its work item. So a work item can be replaced by another one that behaves
alike (`Work.Hom`), and the job goes on in the same way (`Job.perform_map`).

In particular it can be replaced by one that keeps a list of the calls that it has had
(`Observed`). What this list says in the end is what the work item hears (`Job.calls`), operation
by operation: `Job.calls_observed`.
-/

namespace DeferredJobs

variable {ω ω' : Type} [Work ω] [Work ω'] {f : ω → ω'}

/-! ### Work items that behave alike -/

/-- `f` turns work items into others that behave in the same way. -/
structure Work.Hom (f : ω → ω') : Prop where
  run (w : ω) (a : Attempt) : Work.run (f w) a = (f (Work.run w a).1, (Work.run w a).2)
  onCancel (w : ω) (reason : CancelReason) (failure : Option Failure) :
    Work.onCancel (f w) reason failure = f (Work.onCancel w reason failure)
  absorb (w : ω) (r : Record) : Work.absorb (f w) r = f (Work.absorb w r)
  setPriority (w : ω) (priority : Int32) :
    Work.setPriority (f w) priority = f (Work.setPriority w priority)

/-- Any call leads to work items that correspond again. -/
theorem Work.Hom.on (hom : Work.Hom f) (w : ω) (c : Call) : c.on (f w) = f (c.on w) := by
  cases c with
  | run a outcome => rw [Call.on, hom.run, Call.on]
  | onCancel reason failure => exact hom.onCancel w reason failure
  | absorb r => exact hom.absorb w r
  | setPriority priority => exact hom.setPriority w priority

theorem Work.Hom.elim_on (hom : Work.Hom f) (w : ω) (c : Option Call) :
    c.elim (f w) (·.on (f w)) = f (c.elim w (·.on w)) := by
  cases c with
  | none => rfl
  | some c => exact hom.on w c

namespace Job

/-- The job with another work item in place of its own. -/
def map {ω ω' : Type} (f : ω → ω') (job : Job ω) : Job ω' := { job with work := f job.work }

theorem agrees_map {ω ω' : Type} (f : ω → ω') (job : Job ω) : job.Agrees (job.map f) := ⟨rfl, rfl⟩

/-- Work items that behave alike make the same of an attempt. -/
theorem outcome_map (hom : Work.Hom f) (job : Job ω) (now : Nanos) :
    (Work.run (job.map f).work ((job.map f).nextAttempt now)).2 =
      (Work.run job.work (job.nextAttempt now)).2 :=
  congrArg Prod.snd (hom.run job.work (job.nextAttempt now))

/-- Work items that behave alike hear the same. -/
theorem callOf?_map (hom : Work.Hom f) (job : Job ω) (op : Operation) :
    (job.map f).callOf? op = job.callOf? op := by
  cases op with
  | run now =>
    exact congrArg (fun o => some (Call.run (job.nextAttempt now) o)) (job.outcome_map hom now)
  | apply code now =>
    have agrees := job.agrees_map f
    rw [callOf?_apply, callOf?_apply, (agrees.settle code).1, agrees.retryApplied?]
    rfl
  | _ => rfl

/-- **A job does not look into its work item**: with another one that behaves alike, every
operation has the same reply and the same effect. -/
theorem perform_map (hom : Work.Hom f) (job : Job ω) (op : Operation) :
    (job.map f).perform op = ((job.perform op).1, (job.perform op).2.map f) := by
  have alike (now : Nanos) (_ : op = .run now) : Outcome.Alike _ _ :=
    .of_eq (job.outcome_map hom now)
  obtain ⟨answers, agrees⟩ := (job.agrees_map f).perform alike
  refine Prod.ext ?_ ?_
  · cases op with
    | run now =>
      -- here the reply also tells the time, which is up to the outcome as a whole
      let reply (o : Outcome) : Reply :=
        .finished o.code ((job.nextAttempt now).scene.afterAll o.changes).now
      exact congrArg reply (job.outcome_map hom now)
    | _ => exact answers.eq nofun
  · obtain ⟨profile, status, eq⟩ := job.perform_eq op
    obtain ⟨profile', status', eq'⟩ := (job.map f).perform_eq op
    have work : ((job.map f).callOf? op).elim (job.map f).work (·.on (job.map f).work) =
        f ((job.callOf? op).elim job.work (·.on job.work)) := by
      rw [callOf?_map hom]
      exact hom.elim_on job.work (job.callOf? op)
    rw [work, callOf?_map hom] at eq'
    rw [eq, eq'] at agrees
    obtain ⟨rfl, rfl⟩ := agrees
    rw [eq, eq']
    rfl

@[simp] theorem performAll_cons (job : Job ω) (op : Operation) (ops : List Operation) :
    job.performAll (op :: ops) = (job.perform op).2.performAll ops := rfl

theorem performAll_map (hom : Work.Hom f) (job : Job ω) (ops : List Operation) :
    (job.map f).performAll ops = (job.performAll ops).map f := by
  induction ops generalizing job with
  | nil => rfl
  | cons op ops ih =>
    rw [performAll_cons, performAll_cons, perform_map hom]
    exact ih _

theorem events_map (hom : Work.Hom f) (job : Job ω) (ops : List Operation) :
    (job.map f).events ops = job.events ops := by
  induction ops generalizing job with
  | nil => rfl
  | cons op ops ih =>
    rw [events, events, perform_map hom, ih]

end Job

/-! ### Observed work items -/

/-- A work item with a list of the calls that it has had. -/
structure Observed (ω : Type) where
  work : ω
  calls : List Call := []

namespace Observed

instance : Work (Observed ω) where
  run w a :=
    let (work, outcome) := Work.run w.work a
    (⟨work, w.calls ++ [.run a outcome]⟩, outcome)
  onCancel w reason failure :=
    ⟨Work.onCancel w.work reason failure, w.calls ++ [.onCancel reason failure]⟩
  absorb w r := ⟨Work.absorb w.work r, w.calls ++ [.absorb r]⟩
  setPriority w priority := ⟨Work.setPriority w.work priority, w.calls ++ [.setPriority priority]⟩

/-- An observed work item behaves like the one inside. -/
theorem hom_work : Work.Hom (work : Observed ω → ω) where
  run _ _ := rfl
  onCancel _ _ _ := rfl
  absorb _ _ := rfl
  setPriority _ _ := rfl

end Observed

namespace Job

/-- The job with its work item under observation. -/
def observed (job : Job ω) : Job (Observed ω) := job.map fun work => { work }

/-- What the work item of a job hears while operations are carried out one after the other. -/
def calls (job : Job ω) : List Operation → List Call
  | [] => []
  | op :: ops => (job.callOf? op).toList ++ (job.perform op).2.calls ops

/-- Operations that make no attempt have no part in what comes of attempts alone. -/
theorem filterMap_calls_of_ne_run {β : Type} {f : Call → Option β}
    (quiet : ∀ c, c.attempt? = none → f c = none) (job : Job ω) {op : Operation}
    (ops : List Operation) (h : ∀ now, op ≠ .run now) :
    (job.calls (op :: ops)).filterMap f = ((job.perform op).2.calls ops).filterMap f := by
  have silent : (job.callOf? op).toList.filterMap f = [] := by
    have none_made := callOf?_of_ne_run quiet job h
    cases call : job.callOf? op <;> simp_all
  rw [calls, List.filterMap_append, silent]
  rfl

/-- The observer writes down the call that an operation makes. -/
theorem calls_perform (job : Job (Observed ω)) (op : Operation) :
    (job.perform op).2.work.calls = job.work.calls ++ (job.callOf? op).toList := by
  have noticed (reason : CancelReason) :
      ((job.notice? reason).elim job.work (·.on job.work)).calls =
        job.work.calls ++ (job.notice? reason).toList := by
    rw [notice?]
    split
    · exact (List.append_nil _).symm
    · rfl
  rw [work_perform]
  cases op with
  | setPriority | run => rfl
  | onCancel reason => exact noticed reason
  | cancelAsDuplicate => exact noticed _
  | apply code now =>
    rw [callOf?_apply]
    split
    · exact noticed _
    · cases (job.retryApplied? code).bind (·.newPriority) with
      | none => exact (List.append_nil _).symm
      | some priority => rfl
  | _ => exact (List.append_nil _).symm

/-- What an observer writes down in the course of a history. -/
theorem calls_performAll (job : Job (Observed ω)) (ops : List Operation) :
    (job.performAll ops).work.calls = job.work.calls ++ (job.map Observed.work).calls ops := by
  induction ops generalizing job with
  | nil => exact (List.append_nil _).symm
  | cons op ops ih =>
    rw [performAll_cons, ih, calls_perform, calls, callOf?_map Observed.hom_work,
      perform_map Observed.hom_work, List.append_assoc]

/-- **What is written down is what is heard.** -/
theorem calls_observed (job : Job ω) (ops : List Operation) :
    (job.observed.performAll ops).work.calls = job.calls ops := calls_performAll job.observed ops

/-- **Observation changes nothing.** -/
theorem map_work_observed (job : Job ω) (ops : List Operation) :
    (job.observed.performAll ops).map Observed.work = job.performAll ops :=
  (performAll_map Observed.hom_work job.observed ops).symm

theorem events_observed (job : Job ω) (ops : List Operation) :
    job.observed.events ops = job.events ops :=
  (events_map Observed.hom_work job.observed ops).symm

end Job

end DeferredJobs
