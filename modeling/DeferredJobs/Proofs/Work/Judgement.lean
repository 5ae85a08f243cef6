import DeferredJobs.Proofs.Job.Observation
import DeferredJobs.Proofs.Work.Task
import DeferredJobs.Work.Rehearsal

/-!
# How attempts of tasks are judged

When the body of a task fails, two decisions are made. Whether the task is asked about another
attempt is up to `TaskWork.Judgement.asks`; the result code is found afterwards by
`AttemptReport.classify`. The two are written down independently of each other, and between them
the flags of the job may change, because a task can do anything while it is asked.

* **The order of the decisions** does not matter (`TaskWork.Judgement.classify_report`): the answer
  of the task may as well be looked at last, and then it is clear that the task was asked.
* **Being asked** shows from outside: an `ObservedTask` keeps a list of the questions that it has
  answered, which makes no difference otherwise (`TaskWork.hom_inner`).
* **One attempt** ends in one of three ways (`TaskWork.run_of_success`, `TaskWork.run_of_asked`,
  `TaskWork.run_of_unasked`).

`TaskWork.run_decides` puts this together.
-/

namespace DeferredJobs

variable {τ : Type} [Task τ]

theorem Scene.afterAll_append (scene : Scene) (changes changes' : List Change) :
    scene.afterAll (changes ++ changes') = (scene.afterAll changes).afterAll changes' :=
  List.foldl_append

/-! ### Tasks under observation -/

/-- A question about another attempt, and what comes of it. -/
structure Question where
  failure : Failure
  attempt : UInt32
  limit : UInt32
  /-- The surroundings in which it is asked. -/
  scene : Scene
  reply : TaskReply RetryConstraint

/-- A task with a list of the questions that it has answered. -/
structure ObservedTask (τ : Type) where
  task : τ
  questions : List Question := []

instance : Task (ObservedTask τ) where
  onRun t a :=
    let (task, reply) := Task.onRun t.task a
    ({ t with task }, reply)
  shouldReRun t failure attempt limit scene :=
    let (task, reply) := Task.shouldReRun t.task failure attempt limit scene
    (⟨task, t.questions ++ [⟨failure, attempt, limit, scene, reply⟩]⟩, reply)
  retryLimit t := Task.retryLimit t.task
  onCancel t reason failure := { t with task := Task.onCancel t.task reason failure }
  onAdded t r := { t with task := Task.onAdded t.task r }

namespace TaskWork

/-! ### The two decisions -/

/-- **The code of a failed attempt**, with the answer of the task at the end of the chain. -/
theorem Judgement.classify_report (j : Judgement) (final : Scene) (requested : Bool) :
    (j.report final requested).classify =
      if final.status.cancelledSingleId then .failSingleId
      else if j.cancelled then .failForCancel
      else if j.deadlineCancel then .hitDeadline
      else if !j.belowRetryLimit then .failRunLimit
      else if requested then .tryAgain
      else .failShouldReRun := by
  rw [AttemptReport.classify, report]
  cases final.status.cancelledSingleId <;> cases j.cancelled <;> cases j.deadlineCancel <;>
    cases j.belowRetryLimit <;> rfl

theorem Judgement.classify_report_ne_success (j : Judgement) (final : Scene) (requested : Bool) :
    (j.report final requested).classify ≠ .success := by
  rw [classify_report]
  grind

/-- Another attempt is asked for only where the task was asked. -/
theorem Judgement.classify_report_eq_tryAgain_iff {j : Judgement} {final : Scene}
    {requested : Bool} : (j.report final requested).classify = .tryAgain ↔
      final.status.cancelledSingleId = false ∧ j.asks = true ∧ requested = true := by
  rw [classify_report, asks]
  cases final.status.cancelledSingleId <;> cases j.cancelled <;> cases j.deadlineCancel <;>
    cases j.belowRetryLimit <;> cases requested <;> decide

/-- Another attempt is declined only where the task was asked. -/
theorem Judgement.classify_report_eq_failShouldReRun_iff {j : Judgement} {final : Scene}
    {requested : Bool} : (j.report final requested).classify = .failShouldReRun ↔
      final.status.cancelledSingleId = false ∧ j.asks = true ∧ requested = false := by
  rw [classify_report, asks]
  cases final.status.cancelledSingleId <;> cases j.cancelled <;> cases j.deadlineCancel <;>
    cases j.belowRetryLimit <;> cases requested <;> decide

/-! ### One attempt -/

variable (w : TaskWork τ) (a : Attempt) {failure : Failure}

/-- The judgement of an attempt, should its body fail. -/
def judgement : Judgement :=
  judge a (Task.retryLimit (Task.onRun w.task a).1)
    (a.scene.afterAll (Task.onRun w.task a).2.changes)

/-- What the task answers when it is asked about another attempt, and the task afterwards. -/
def reply (failure : Failure) : τ × TaskReply RetryConstraint :=
  let task := (Task.onRun w.task a).1
  Task.shouldReRun task failure a.number (Task.retryLimit task) (w.judgement a).scene

theorem run_of_success (h : (Task.onRun w.task a).2.answer = none) :
    w.run a = ({ w with task := (Task.onRun w.task a).1 },
      { code := .success, retry := a.retry, failure := none
        changes := (Task.onRun w.task a).2.changes }) := by
  rw [run]
  dsimp only
  rw [h]
  rfl

theorem run_of_asked (h : (Task.onRun w.task a).2.answer = some failure)
    (asked : (w.judgement a).asks = true) :
    w.run a = ({ w with task := (w.reply a failure).1 },
      { code := ((w.judgement a).report
          ((w.judgement a).scene.afterAll (w.reply a failure).2.changes)
          (w.reply a failure).2.answer.retry).classify
        retry := some (w.reply a failure).2.answer, failure := some failure
        changes := (Task.onRun w.task a).2.changes ++ (w.reply a failure).2.changes }) := by
  rw [run]
  dsimp only
  rw [h]
  exact if_pos asked

theorem run_of_unasked (h : (Task.onRun w.task a).2.answer = some failure)
    (unasked : (w.judgement a).asks = false) :
    w.run a = ({ w with task := (Task.onRun w.task a).1 },
      { code := ((w.judgement a).report (w.judgement a).scene false).classify
        retry := a.retry, failure := some failure
        changes := (Task.onRun w.task a).2.changes }) := by
  rw [run]
  dsimp only
  rw [h]
  exact if_neg (Bool.eq_false_iff.mp unasked)

/-! ### Questions -/

/-- The work item with its task under observation. -/
def observed (w : TaskWork τ) : TaskWork (ObservedTask τ) := { w with task := { task := w.task } }

/-- The work item with its task no longer under observation. -/
def inner (w : TaskWork (ObservedTask τ)) : TaskWork τ := { w with task := w.task.task }

/-- **Observation changes nothing.** -/
theorem hom_inner : Work.Hom (inner : TaskWork (ObservedTask τ) → TaskWork τ) where
  run w a := by
    change w.inner.run a = ((w.run a).1.inner, (w.run a).2)
    cases answer : (Task.onRun w.task a).2.answer with
    | none => rw [w.run_of_success a answer, w.inner.run_of_success a answer]; rfl
    | some failure =>
      cases asks : (w.judgement a).asks with
      | true => rw [w.run_of_asked a answer asks, w.inner.run_of_asked a answer asks]; rfl
      | false => rw [w.run_of_unasked a answer asks, w.inner.run_of_unasked a answer asks]; rfl
  onCancel _ _ _ := rfl
  absorb _ _ := rfl
  setPriority _ _ := rfl

/-- A task that is asked is asked once. Its answer is the retry constraint that stands afterwards,
and what it did meanwhile comes last. -/
theorem effects_of_asked (h : (Task.onRun w.task a).2.answer = some failure)
    (asked : (w.judgement a).asks = true) :
    (w.observed.run a).1.task.questions =
        [⟨failure, a.number, Task.retryLimit (Task.onRun w.task a).1, (w.judgement a).scene,
          (w.reply a failure).2⟩] ∧
      (w.run a).2.retry = some (w.reply a failure).2.answer ∧
      (w.run a).2.changes =
        (Task.onRun w.task a).2.changes ++ (w.reply a failure).2.changes := by
  rw [w.observed.run_of_asked a h asked, w.run_of_asked a h asked]
  exact ⟨rfl, rfl, rfl⟩

theorem effects_of_unasked (h : (Task.onRun w.task a).2.answer = some failure)
    (unasked : (w.judgement a).asks = false) :
    (w.observed.run a).1.task.questions = [] ∧ (w.run a).2.retry = a.retry ∧
      (w.run a).2.changes = (Task.onRun w.task a).2.changes := by
  rw [w.observed.run_of_unasked a h unasked, w.run_of_unasked a h unasked]
  exact ⟨rfl, rfl, rfl⟩

/-- The report of the attempt holds the single-id flag as it is at the end. -/
theorem code_of_failure (h : (Task.onRun w.task a).2.answer = some failure) :
    (w.run a).2.code =
      ((w.judgement a).report (a.scene.afterAll (w.run a).2.changes)
        ((w.judgement a).asks && (w.reply a failure).2.answer.retry)).classify := by
  cases asks : (w.judgement a).asks with
  | true =>
    rw [w.run_of_asked a h asks]
    dsimp only
    rw [Scene.afterAll_append]
    rfl
  | false =>
    rw [w.run_of_unasked a h asks]
    rfl

/-- The failure of the body is the failure of the attempt. -/
theorem failure_run : (w.run a).2.failure = (Task.onRun w.task a).2.answer := by
  cases answer : (Task.onRun w.task a).2.answer with
  | none => rw [w.run_of_success a answer]
  | some failure =>
    cases asks : (w.judgement a).asks with
    | true => rw [w.run_of_asked a answer asks]
    | false => rw [w.run_of_unasked a answer asks]

/-- **How an attempt of a task ends.** The attempt succeeds exactly if the body of the task does,
whatever it did to the clock and to the flags; then the task is asked nothing, no failure is
recorded and the retry constraint that stood before still stands.

If the body fails, the failure is recorded. The task is asked about another attempt, once, exactly
if at this moment attempts are left, the job is not cancelled and no deadline ends it; its answer
is the retry constraint that stands afterwards, and without an answer the former one stands. The
code is found by the single-id flag as it is at the end, then by what was seen right after the body
had failed: a cancellation, a deadline, the limit; and last by the answer. -/
theorem run_decides (w : TaskWork τ) (a : Attempt) :
    let body := (Task.onRun w.task a).2
    let limit := Task.retryLimit (Task.onRun w.task a).1
    let scene := a.scene.afterAll body.changes
    let deadlineCancels := a.cancelOnDeadline = true ∧ a.deadline.hasPassed scene.now = true
    let asks := a.number < limit ∧ scene.status.cancelled = false ∧ ¬deadlineCancels
    let outcome := (w.run a).2
    let final := a.scene.afterAll outcome.changes
    let questions := (w.observed.run a).1.task.questions
    w.run a = ((w.observed.run a).1.inner, (w.observed.run a).2) ∧
    (outcome.code = .success ↔ body.answer = none) ∧
    (body.answer = none → outcome.failure = none ∧
      questions = [] ∧ outcome.retry = a.retry ∧ outcome.changes = body.changes) ∧
    (∀ failure, body.answer = some failure → outcome.failure = some failure ∧
      (asks → ∃ reply, questions = [⟨failure, a.number, limit, scene, reply⟩] ∧
        outcome.retry = some reply.answer ∧ outcome.changes = body.changes ++ reply.changes) ∧
      (¬asks → questions = [] ∧ outcome.retry = a.retry ∧ outcome.changes = body.changes) ∧
      outcome.code =
        if final.status.cancelledSingleId then .failSingleId
        else if scene.status.cancelled then .failForCancel
        else if deadlineCancels then .hitDeadline
        else if limit ≤ a.number then .failRunLimit
        else if questions.any (·.reply.answer.retry) then .tryAgain
        else .failShouldReRun) ∧
    (outcome.code = .tryAgain →
      asks ∧ ∃ answer, outcome.retry = some answer ∧ answer.retry = true) ∧
    (outcome.code = .failShouldReRun →
      asks ∧ ∃ answer, outcome.retry = some answer ∧ answer.retry = false) := by
  intro body limit scene deadlineCancels asks outcome final questions
  have same : w.run a = ((w.observed.run a).1.inner, (w.observed.run a).2) :=
    hom_inner.run w.observed a
  have deadline_iff : deadlineCancels ↔ (w.judgement a).deadlineCancel = true :=
    Bool.and_eq_true_iff.symm
  have below_iff : a.number < limit ↔ (w.judgement a).belowRetryLimit = true :=
    decide_eq_true_iff.symm
  have asks_iff : asks ↔ (w.judgement a).asks = true := by
    simp only [asks, below_iff, deadline_iff, Judgement.asks, Bool.and_eq_true, Bool.not_eq_true',
      Bool.not_eq_true]
    exact ⟨fun ⟨below, cancelled, deadline⟩ => ⟨⟨below, deadline⟩, cancelled⟩,
      fun ⟨⟨below, deadline⟩, cancelled⟩ => ⟨below, cancelled, deadline⟩⟩
  cases answer : body.answer with
  | none =>
    have ran : outcome = _ := congrArg Prod.snd (w.run_of_success a answer)
    have unasked : questions = [] :=
      congrArg (·.1.task.questions) (w.observed.run_of_success a answer)
    rw [ran]
    exact ⟨same, by simp, fun _ => ⟨rfl, unasked, rfl, rfl⟩, nofun, nofun, nofun⟩
  | some failure =>
    have of_asks (h : asks) := w.effects_of_asked a answer (asks_iff.mp h)
    have unasked (h : ¬asks) : (w.judgement a).asks = false :=
      Bool.eq_false_iff.mpr (mt asks_iff.mpr h)
    have of_not_asks (h : ¬asks) := w.effects_of_unasked a answer (unasked h)
    have code := w.code_of_failure a answer
    have failed : outcome.code ≠ .success := by
      rw [code]
      exact Judgement.classify_report_ne_success _ _ _
    refine ⟨same, iff_of_false failed nofun, nofun, ?_, fun again => ?_, fun declined => ?_⟩
    · rintro _ ⟨⟩
      refine ⟨(w.failure_run a).trans answer, fun h => ⟨_, of_asks h⟩, of_not_asks, ?_⟩
      have any : questions.any (·.reply.answer.retry) =
          ((w.judgement a).asks && (w.reply a failure).2.answer.retry) := by
        by_cases h : asks
        · rw [show questions = _ from (of_asks h).1, asks_iff.mp h]
          exact Bool.or_false _
        · rw [show questions = _ from (of_not_asks h).1, unasked h]
          rfl
      rw [code, Judgement.classify_report, any]
      simp only [deadline_iff, ← UInt32.not_lt, below_iff, Bool.not_eq_true', Bool.not_eq_true]
      rfl
    · obtain ⟨-, asked, requested⟩ := Judgement.classify_report_eq_tryAgain_iff.mp
        (code.symm.trans again)
      rw [asked] at requested
      exact ⟨asks_iff.mpr asked, _, (of_asks (asks_iff.mpr asked)).2.1, requested⟩
    · obtain ⟨-, asked, refused⟩ := Judgement.classify_report_eq_failShouldReRun_iff.mp
        (code.symm.trans declined)
      rw [asked] at refused
      exact ⟨asks_iff.mpr asked, _, (of_asks (asks_iff.mpr asked)).2.1, refused⟩

/-- While a task is asked about another attempt, its job is cancelled in favour of another one. The
answer is kept all the same, and the code tells of the other job. -/
theorem run_decides_replaced_while_asked :
    let later : RetryConstraint := RetryConstraint.again.withDelay (.ofMillis 5)
    let step : Rehearsal.Step :=
      { failure := some "offline", retry := some (.fixed later)
        retryDuring := [⟨"replace", some (.mark .cancelledSingleId)⟩] }
    let w : TaskWork ScriptedTask := { task := ⟨{ upcoming := [step] }⟩ }
    let a : Attempt :=
      { number := 2, deadline := .upTo 9, cancelOnDeadline := true, scene := ⟨7, .fresh⟩ }
    (Task.onRun w.task a).2.answer = some ⟨"offline"⟩ ∧ (w.run a).2.retry = some later ∧
      (w.run a).2.code = .failSingleId := by
  intro later step w a
  obtain ⟨-, -, -, failed, -⟩ := w.run_decides a
  obtain ⟨-, asked, -, code⟩ := failed ⟨"offline"⟩ rfl
  obtain ⟨reply, questions, stored, -⟩ := asked (by decide)
  have same : reply.answer = later := by
    injection questions with question
    exact (congrArg (·.reply.answer) question).symm
  exact ⟨rfl, same ▸ stored, code⟩

end TaskWork

end DeferredJobs
