import DeferredJobs.Report.Check

/-!
# Watching stored jobs

A watch checks the same records at each tick and reports a verdict when its eligibility differs
from the one reported last under the same id. Records that share an id share what was reported.
-/

namespace DeferredJobs

/-- A verdict that was reported, and the instant of its check. -/
structure Notice where
  now : Nanos
  verdict : Verdict
deriving DecidableEq

/-- The wake of a notice in words, with a dash where there is none. -/
def Notice.wakeText (n : Notice) : String := n.verdict.nextWake.getD "-"

/-- For each id, the eligibility reported last. -/
abbrev Reported := List (String × Eligibility)

namespace Reported

/-- Whether a verdict differs from what was reported last under its id. -/
def isNews (seen : Reported) (v : Verdict) : Bool := seen.lookup v.id != some v.eligibility

/-- What has been reported once a verdict is. -/
def note (seen : Reported) (v : Verdict) : Reported :=
  (v.id, v.eligibility) :: seen.filter (·.1 != v.id)

/-- The verdicts of one tick that are reported, in order, and what has been reported then. -/
def select (seen : Reported) : List Verdict → List Verdict × Reported
  | [] => ([], seen)
  | v :: vs =>
    if seen.isNews v then
      let (news, seen) := (seen.note v).select vs
      (v :: news, seen)
    else seen.select vs

end Reported

/-- One tick of a watch. -/
def watchTick (records : List Record) (network : Connectivity) (seen : Reported) (now : Nanos) :
    List Notice × Reported :=
  let (news, seen) := seen.select (check records now network)
  (news.map (⟨now, ·⟩), seen)

/-- What a watch reports at ticks with the given clock readings, when `seen` was reported before. -/
def watchFrom (records : List Record) (network : Connectivity) (seen : Reported) :
    List Nanos → List Notice
  | [] => []
  | now :: readings =>
    let (notices, seen) := watchTick records network seen now
    notices ++ watchFrom records network seen readings

/-- What a watch reports from its first tick on. -/
def watch (records : List Record) (network : Connectivity) (readings : List Nanos) : List Notice :=
  watchFrom records network [] readings

end DeferredJobs
