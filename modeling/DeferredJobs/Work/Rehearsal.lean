import DeferredJobs.Work.Task

/-!
# Rehearsed work

Work items and tasks that follow a script: each attempt plays the next step, and everything that
the item does or learns goes into a journal. They serve to try out how jobs live without any real
work. A script that is exhausted goes on with steps that succeed and do nothing.
-/

namespace DeferredJobs

namespace Rehearsal

/-- Something that a step does to its surroundings. An action without a change has a name and no
effect. -/
structure Action where
  name : String
  change : Option Change := none

/-- The answer to an action: whether a mark took effect, or the new reading of the clock. -/
inductive Answer where
  | flag (took : Bool)
  | reading (now : Nanos)
  | nothing

/-- How a step settles the question of another attempt. -/
inductive RetryPlan where
  | fixed (r : RetryConstraint)
  /-- A delay that doubles with each attempt. -/
  | backoff (initial : Duration)

/-- What happens in one attempt. -/
structure Step where
  code : ResultCode := .success
  failure : Option String := none
  retry : Option RetryPlan := none
  /-- What is done while the attempt runs. -/
  during : List Action := []
  /-- What is done while the question of another attempt is settled. -/
  retryDuring : List Action := []

/-- An entry of the journal. -/
inductive Entry where
  | attempt (a : Attempt)
  | action (name : String) (answer : Answer)
  | absorb (r : Record)
  | added (r : Record)
  | setPriority (priority : Int32)
  | cancelled (reason : CancelReason) (failure : Option Failure)
  | shouldReRun (failure : Failure) (attempt limit : UInt32)

/-- The answer to a change in the given surroundings. -/
def answerTo (s : Scene) : Change → Answer
  | .mark m => .flag (s.status.mark m).1
  | .setClock _ => .nothing
  | .advanceClock d => .reading (offset s.now d)

/-- The changes that actions make, and what the journal says of them, when they start in the
given surroundings. -/
def play (s : Scene) : List Action → List Change × List Entry
  | [] => ([], [])
  | a :: as =>
    match a.change with
    | none =>
      let (changes, entries) := play s as
      (changes, .action a.name .nothing :: entries)
    | some c =>
      let (changes, entries) := play (s.after c) as
      (c :: changes, .action a.name (answerTo s c) :: entries)

/-- The constraint that a plan amounts to at an attempt. -/
def RetryPlan.constraint (attempt : UInt32) : RetryPlan → RetryConstraint
  | fixed r => r
  | backoff initial => .exponentialBackoff attempt initial

end Rehearsal

/-- A script that is being played. -/
structure Rehearsal where
  upcoming : List Rehearsal.Step
  /-- The step that was played last. -/
  current : Rehearsal.Step := {}
  /-- The latest entries first. -/
  journal : List Rehearsal.Entry := []
  retryLimit : UInt32 := 3

namespace Rehearsal

/-- Adds an entry to the journal. -/
def log (r : Rehearsal) (e : Entry) : Rehearsal := { r with journal := e :: r.journal }

/-- Adds entries to the journal, the earliest first. -/
def logAll (r : Rehearsal) (es : List Entry) : Rehearsal := es.foldl log r

/-- The entries so far in order, and the rehearsal with an empty journal. -/
def drain (r : Rehearsal) : List Entry × Rehearsal :=
  (r.journal.reverse, { r with journal := [] })

/-- Turns to the next step of the script and plays what is done while the attempt runs. -/
def advance (r : Rehearsal) (a : Attempt) : Rehearsal × List Change :=
  let current := r.upcoming.headD {}
  let (changes, entries) := play a.scene current.during
  (({ r with upcoming := r.upcoming.tail, current }.log (.attempt a)).logAll entries, changes)

end Rehearsal

/-! ### Roles -/

/-- A work item that does all that its script says. -/
structure ScriptedWork where
  rehearsal : Rehearsal

instance : Work ScriptedWork where
  run w a :=
    let (r, changes) := w.rehearsal.advance a
    (⟨r⟩,
      { code := r.current.code
        retry := (r.current.retry.map (·.constraint a.number)).or a.retry
        failure := r.current.failure.map Failure.mk
        changes })
  onCancel w reason failure := ⟨w.rehearsal.log (.cancelled reason failure)⟩
  absorb w record := ⟨w.rehearsal.log (.absorb record)⟩
  setPriority w priority := ⟨w.rehearsal.log (.setPriority priority)⟩

/-- A work item that does not care what job it is part of and reports neither failures nor retry
constraints. -/
structure DeafWork where
  rehearsal : Rehearsal

instance : Work DeafWork where
  run w a :=
    let (r, changes) := w.rehearsal.advance a
    (⟨r⟩, { code := r.current.code, retry := a.retry, failure := none, changes })
  onCancel w reason failure := ⟨w.rehearsal.log (.cancelled reason failure)⟩
  setPriority w priority := ⟨w.rehearsal.log (.setPriority priority)⟩

/-- A task that does all that its script says. -/
structure ScriptedTask where
  rehearsal : Rehearsal

instance : Task ScriptedTask where
  onRun t a :=
    let (r, changes) := t.rehearsal.advance a
    (⟨r⟩, { answer := r.current.failure.map Failure.mk, changes })
  shouldReRun t failure attempt limit scene :=
    let (changes, entries) := Rehearsal.play scene t.rehearsal.current.retryDuring
    (⟨(t.rehearsal.log (.shouldReRun failure attempt limit)).logAll entries⟩,
      { answer := (t.rehearsal.current.retry.map (·.constraint attempt)).getD .again, changes })
  retryLimit t := t.rehearsal.retryLimit
  onCancel t reason failure := ⟨t.rehearsal.log (.cancelled reason failure)⟩
  onAdded t record := ⟨t.rehearsal.log (.added record)⟩

/-- A task that only runs. -/
structure PlainTask where
  rehearsal : Rehearsal

instance : Task PlainTask where
  onRun t a :=
    let (r, changes) := t.rehearsal.advance a
    (⟨r⟩, { answer := r.current.failure.map Failure.mk, changes })

/-- A rehearsed work item in any of these roles. -/
inductive RehearsedWork where
  | scripted (w : ScriptedWork)
  | deaf (w : DeafWork)
  | task (w : TaskWork ScriptedTask)
  | plainTask (w : TaskWork PlainTask)

namespace RehearsedWork

instance : Work RehearsedWork where
  run
    | scripted w, a => (Work.run w a).map scripted id
    | deaf w, a => (Work.run w a).map deaf id
    | task w, a => (Work.run w a).map task id
    | plainTask w, a => (Work.run w a).map plainTask id
  onCancel
    | scripted w, reason, failure => scripted (Work.onCancel w reason failure)
    | deaf w, reason, failure => deaf (Work.onCancel w reason failure)
    | task w, reason, failure => task (Work.onCancel w reason failure)
    | plainTask w, reason, failure => plainTask (Work.onCancel w reason failure)
  absorb
    | scripted w, record => scripted (Work.absorb w record)
    | deaf w, record => deaf (Work.absorb w record)
    | task w, record => task (Work.absorb w record)
    | plainTask w, record => plainTask (Work.absorb w record)
  setPriority
    | scripted w, priority => scripted (Work.setPriority w priority)
    | deaf w, priority => deaf (Work.setPriority w priority)
    | task w, priority => task (Work.setPriority w priority)
    | plainTask w, priority => plainTask (Work.setPriority w priority)

/-- The journal so far in order, and the work item with an empty journal. -/
def drain : RehearsedWork → List Rehearsal.Entry × RehearsedWork
  | scripted w => w.rehearsal.drain.map id fun r => scripted ⟨r⟩
  | deaf w => w.rehearsal.drain.map id fun r => deaf ⟨r⟩
  | task w => w.task.rehearsal.drain.map id fun r => task { w with task := ⟨r⟩ }
  | plainTask w => w.task.rehearsal.drain.map id fun r => plainTask { w with task := ⟨r⟩ }

end RehearsedWork

end DeferredJobs
