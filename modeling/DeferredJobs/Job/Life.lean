import DeferredJobs.Builder
import DeferredJobs.Job.Operation

/-!
# The life of a job

A job outlives the program that made it: when the program starts again, the job is restored from
its record, with another work item. `Job.live` takes a job through a list of `Episode`s, which are
operations and restarts in any order.
-/

namespace DeferredJobs

/-- Something that happens in the life of a job, whose work items are among `ω`. -/
inductive Episode (ω : Type) where
  | operation (op : Operation)
  /-- The program ends and starts again, and the job gets a new work item. -/
  | restart (work : ω)

namespace Job

variable {ω : Type} [Work ω]

/-- The job after an episode. A restart finds nothing but the record of the job. -/
def undergo (job : Job ω) : Episode ω → Except BuildError (Job ω)
  | .operation op => .ok (job.perform op).2
  | .restart work => restore job.toRecord work

/-- The job after several episodes, one after the other. -/
def live (job : Job ω) (episodes : List (Episode ω)) : Except BuildError (Job ω) :=
  episodes.foldlM undergo job

end Job

end DeferredJobs
