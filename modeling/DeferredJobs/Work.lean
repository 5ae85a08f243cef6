import DeferredJobs.Outcome
import DeferredJobs.Record

/-!
# Work items

A job carries a work item and learns nothing about it but what the class `Work` offers. While an
attempt runs, the clock may move and the status of the job may be marked, by the work itself or by
others; an attempt lists these `Change`s in its outcome.
-/

namespace DeferredJobs

/-- What went wrong in an attempt. -/
structure Failure where
  message : String
deriving DecidableEq

/-- The surroundings of an attempt: the reading of the clock and the flags of the job. -/
structure Scene where
  now : Nanos
  status : Status

/-- Something that happens to the surroundings of an attempt. -/
inductive Change where
  | mark (m : Mark)
  | setClock (now : Nanos)
  | advanceClock (step : Duration)

namespace Scene

/-- The surroundings after a change. -/
def after (s : Scene) : Change → Scene
  | .mark m => { s with status := (s.status.mark m).2 }
  | .setClock now => { s with now }
  | .advanceClock d => { s with now := offset s.now d }

/-- The surroundings after several changes, one after the other. -/
def afterAll (s : Scene) (changes : List Change) : Scene := changes.foldl after s

end Scene

/-- What an attempt is told when it starts. -/
structure Attempt where
  /-- The number of the attempt, counted from one. -/
  number : UInt32
  deadline : TimeBound
  cancelOnDeadline : Bool
  scene : Scene
  /-- The retry constraint that stands unless the attempt leaves another one. -/
  retry : Option RetryConstraint := none

/-- Whether the deadline ends the job in the given surroundings. -/
def Attempt.deadlineCancels (a : Attempt) (s : Scene) : Bool :=
  a.cancelOnDeadline && a.deadline.hasPassed s.now

/-- How an attempt went. -/
structure Outcome where
  code : ResultCode
  /-- The retry constraint that stands at the end. -/
  retry : Option RetryConstraint
  failure : Option Failure
  /-- What happened to the surroundings, in order. -/
  changes : List Change

/-- What can be done with a work item. Each function returns the item as it is afterwards. -/
class Work (ω : Type) where
  /-- Makes one attempt. -/
  run : ω → Attempt → ω × Outcome
  /-- Learns that the job is cancelled for good, and the last failure. -/
  onCancel : ω → CancelReason → Option Failure → ω
  /-- Learns what job it has become part of. -/
  absorb : ω → Record → ω := fun w _ => w
  /-- Learns a new priority of the job. -/
  setPriority : ω → Int32 → ω

end DeferredJobs
