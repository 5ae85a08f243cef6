import DeferredJobs.Builder
import DeferredJobs.Clock

/-!
# Job parameters

What a producer asks for, in relative terms: delays and timeouts. `Params.toBuilder` anchors them
to a clock and fills in everything of a job but its work item.
-/

namespace DeferredJobs

/-- What happens to a job that has waited too long. -/
structure DeadlinePolicy where
  after : Duration
  /-- The deadline ends the job instead of forcing a run. -/
  cancel : Bool := false
deriving DecidableEq

/-- What a producer asks for. -/
structure Params where
  priority : Int32 := 0
  groupId : Option String := none
  /-- At most one job may be pending for this id. It also names the group where none is given. -/
  singleId : Option String := none
  persistent : Bool := false
  tags : TagSet := .empty
  delay : Duration := .zero
  network : Timeout := .never
  unmetered : Timeout := .never
  deadline : Option DeadlinePolicy := none
deriving DecidableEq

/-- What is left of a policy once its duration is stored in whole milliseconds. -/
def DeadlinePolicy.truncated (p : DeadlinePolicy) : DeadlinePolicy :=
  { p with after := p.after.truncated }

namespace Params

/-! ### Requests -/

def groupBy (p : Params) (groupId : String) : Params := { p with groupId := some groupId }

def singleInstanceBy (p : Params) (singleId : String) : Params :=
  { p with singleId := some singleId }

def persist (p : Params) : Params := { p with persistent := true }

def addTags (p : Params) (tags : List String) : Params := { p with tags := p.tags.insertMany tags }

def delayIn (p : Params) (delay : Duration) : Params := { p with delay }

def requireNetwork (p : Params) (t : Timeout) : Params := { p with network := t }

def requireUnmetered (p : Params) (t : Timeout) : Params := { p with unmetered := t }

/-- Runs the job at the latest after some time. -/
def runAfter (p : Params) (after : Duration) : Params :=
  { p with deadline := some { after, cancel := false } }

/-- Cancels the job at the latest after some time. -/
def cancelAfter (p : Params) (after : Duration) : Params :=
  { p with deadline := some { after, cancel := true } }

/-- What is left of parameters once their durations are stored in whole milliseconds. -/
def truncated (p : Params) : Params :=
  { p with
    delay := p.delay.truncated
    network := p.network.truncated
    unmetered := p.unmetered.truncated
    deadline := p.deadline.map .truncated }

/-! ### Anchoring -/

/-- The tags of the job, with the one that marks it as a single instance. -/
def allTags (p : Params) : TagSet :=
  match p.singleId with
  | some s => p.tags.insert (singleInstanceTag s)
  | none => p.tags

/-- Until when the job is delayed from `now` on; no delay at all is no bound. -/
def delayUntil (p : Params) (now : Nanos) : TimeBound :=
  if p.delay.nanos = 0 then .never else .upTo (offset now p.delay)

/-- The deadline counted from `now`, and whether it ends the job. -/
def deadlineFrom (p : Params) (now : Nanos) : TimeBound × Bool :=
  match p.deadline with
  | some policy => (.upTo (offset now policy.after), policy.cancel)
  | none => (.forever, false)

/-- A builder with everything but the work item. One reading of the clock anchors the creation,
the delay and the deadline; the network windows are sealed at the next reading. -/
def toBuilder {κ : Type} [Clock κ] (ω : Type) (p : Params) (id : String) (clock : κ)
    (session : SessionId) : Builder ω × κ :=
  let (now, clock) := Clock.read clock
  let (deadline, cancelOnDeadline) := p.deadlineFrom now
  let tags := p.allTags
  let parts := ({} : Builder ω)
    |>.withId id
    |>.withPersistent p.persistent
    |>.withPriority p.priority
    |>.withGroupId (p.groupId.or p.singleId)
    |>.withCreatedAt now
    |>.withDelayUntil (p.delayUntil now)
    |>.withSession session
    |>.withDeadline deadline cancelOnDeadline
    |>.withTags (if tags.isEmpty then none else some tags)
  let (windowsAt, clock) := Clock.read clock
  (parts.sealWindows windowsAt p.network p.unmetered, clock)

end Params

end DeferredJobs
