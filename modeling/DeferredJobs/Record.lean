import DeferredJobs.Constraints
import DeferredJobs.Retry
import DeferredJobs.Status
import DeferredJobs.Tags

/-!
# Job records

A `Profile` holds what a job is and how it is scheduled; a `Record` adds its flags and is what is
stored. A record may be damaged: its flags may contradict each other, and its network window may
fall short of the unmetered one. `Record.constraints` and `Record.state` read it as the job that
is restored from it.
-/

namespace DeferredJobs

/-- A run of the program, which claims the jobs that it starts. -/
structure SessionId where
  number : Int64
deriving DecidableEq, Inhabited

def SessionId.text (s : SessionId) : String := s!"session-{s.number}"

/-- What a job is and how it is scheduled. -/
structure Profile where
  id : String
  persistent : Bool
  priority : Int32
  groupId : Option String
  /-- The number of attempts that were followed by another one. -/
  runCount : UInt32
  createdAt : Nanos
  delayUntil : TimeBound
  /-- The position in the queue, once there is one. -/
  insertionOrder : Option Int64
  /-- The session that claimed the job last. -/
  session : SessionId
  windows : NetworkWindows
  deadline : TimeBound
  cancelOnDeadline : Bool
  tags : Option TagSet
  /-- What the last attempt asked for, until it is applied. -/
  retry : Option RetryConstraint
deriving DecidableEq

namespace Profile

/-- The constraints that a profile sets, its windows taken as they are. -/
def constraints (p : Profile) : Constraints :=
  { delayUntil := p.delayUntil, windows := p.windows, deadline := p.deadline,
    cancelOnDeadline := p.cancelOnDeadline }

/-- Whether the job has any tag. -/
def hasTags (p : Profile) : Bool := p.tags.any (!·.isEmpty)

/-- The first tag that names a single-instance key. -/
def singleInstanceKey? (p : Profile) : Option String := p.tags.bind (·.singleInstanceKey?)

/-- Whether a session other than `current` claimed the job last. -/
def isStaleSession (p : Profile) (current : SessionId) : Bool := p.session != current

end Profile

/-- What is stored of a job. -/
structure Record extends Profile where
  cancelled : Bool := false
  cancelledSingleId : Bool := false
  successful : Bool := false
deriving DecidableEq

namespace Record

/-- The constraints of the job that the record describes: its network window covers the unmetered
one. -/
def constraints (r : Record) : Constraints :=
  { r.toProfile.constraints with windows := r.windows.covering }

/-- The state of the job that the record describes. -/
def state (r : Record) : JobState :=
  if r.successful then .successful
  else if r.cancelled || r.cancelledSingleId then .cancelled r.cancelledSingleId
  else .pending

end Record

end DeferredJobs
