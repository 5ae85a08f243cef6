import DeferredJobs.Connectivity
import DeferredJobs.Time.Timeout

/-!
# Run constraints

`Constraints.evaluate` decides whether a job may run at an instant under a connectivity, and
`Constraints.nextWake` tells when that answer may change while the connectivity stays the same.

* **Blocking.** A delay, a network requirement and an unmetered network requirement hold a job
  back, in this order.
* **Deadline.** Once it has passed, it either ends the job (`cancelOnDeadline`) or lifts whatever
  holds the job back. The two never mix.
-/

namespace DeferredJobs

/-- What a decision to run depends on. -/
structure Constraints where
  delayUntil : TimeBound := .never
  windows : NetworkWindows := ⟨.never, .never⟩
  deadline : TimeBound := .forever
  cancelOnDeadline : Bool := false
deriving DecidableEq

/-- The answer to whether a job may run. -/
inductive Eligibility where
  /-- Nothing holds the job back. -/
  | runnable
  /-- Something holds the job back, but its deadline has passed. -/
  | forcedByDeadline
  /-- The job waits for its delay to end at `wake`. -/
  | delayed (wake : Nanos)
  | awaitingNetwork
  | awaitingUnmetered
  | cancelled
  /-- The deadline has passed and ends the job. -/
  | hitDeadline
  /-- The job has already succeeded. -/
  | completed
deriving DecidableEq

namespace Eligibility

/-- Whether the job may be started. -/
def isRunnable (e : Eligibility) : Bool := e == .runnable || e == .forcedByDeadline

/-- The answer in words. -/
def text : Eligibility → String
  | runnable => "runnable"
  | forcedByDeadline => "runnable (forced by deadline)"
  | delayed wake => s!"delayed until {wake}ns"
  | awaitingNetwork => "awaiting network"
  | awaitingUnmetered => "awaiting unmetered network"
  | cancelled => "cancelled"
  | hitDeadline => "hit deadline"
  | completed => "completed"

end Eligibility

namespace Constraints

/-- Whether a network is required at `now`. -/
def requiresNetwork (c : Constraints) (now : Nanos) : Bool := c.windows.network.isPending now

/-- Whether an unmetered network is required at `now`. -/
def requiresUnmetered (c : Constraints) (now : Nanos) : Bool := c.windows.unmetered.isPending now

/-- Whether the deadline has passed at `now`. -/
def deadlineReached (c : Constraints) (now : Nanos) : Bool := c.deadline.hasPassed now

/-- The first constraint that holds the job back, if one does. A delay without end names the last
instant. -/
def outstanding? (c : Constraints) (now : Nanos) (network : Connectivity) : Option Eligibility :=
  if c.delayUntil.isPending now then
    some (.delayed (c.delayUntil.instant?.getD Int64.maxValue))
  else if c.requiresNetwork now && !network.hasNetwork then
    some .awaitingNetwork
  else if c.requiresUnmetered now && !network.hasUnmetered then
    some .awaitingUnmetered
  else
    none

/-- Whether a job under these constraints may run at `now`. -/
def evaluate (c : Constraints) (cancelled : Bool) (now : Nanos) (network : Connectivity) :
    Eligibility :=
  if cancelled then .cancelled
  else if c.deadlineReached now then
    if c.cancelOnDeadline then .hitDeadline
    else if (c.outstanding? now network).isSome then .forcedByDeadline
    else .runnable
  else (c.outstanding? now network).getD .runnable

/-- The first instant after `now` at which a bound ends, if there is one: until then `evaluate`
does not change its answer unless the connectivity changes. -/
def nextWake (c : Constraints) (now : Nanos) : Option Nanos :=
  ([c.delayUntil, c.windows.network, c.windows.unmetered, c.deadline].filter
    (·.isPending now)).filterMap TimeBound.instant? |>.min?

end Constraints

end DeferredJobs
