import DeferredJobs.Job
import DeferredJobs.Text.Printable

/-!
# Job descriptions

`Job.description` shows the fields of a job on one line, for people who look for a fault. The work
item and what is remembered of its attempts are left out, which the two dots at the end tell.
-/

namespace DeferredJobs

namespace Description

/-- A character of a quoted string. Quotes and backslashes are escaped, and so is every character
that cannot be seen by itself. -/
def quotedChar (c : Char) : String :=
  if c = '"' then "\\\"" else if c = '\\' then "\\\\"
  else if c = '\n' then "\\n" else if c = '\t' then "\\t" else if c = '\r' then "\\r"
  else if c = '\x00' then "\\0"
  else if Text.standsAlone c then c.toString
  else "\\u\x7b" ++ String.ofList (Nat.toDigits 16 c.toNat) ++ "\x7d"

/-- A string in double quotes. -/
def quoted (s : String) : String := "\"" ++ String.join (s.toList.map quotedChar) ++ "\""

def optional {α : Type} (shown : α → String) : Option α → String
  | none => "None"
  | some a => "Some(" ++ shown a ++ ")"

/-- A name with its fields in braces. -/
def fields (name : String) (entries : List (String × String)) : String :=
  name ++ " \x7b " ++ ", ".intercalate (entries.map fun (field, value) => field ++ ": " ++ value)
    ++ " \x7d"

def bound : TimeBound → String
  | .never => "Never"
  | .upTo t => s!"At({t})"
  | .forever => "Forever"

def timeout : Timeout → String
  | .never => "Never"
  | .forever => "Forever"
  | .after d => "After(" ++ d.text ++ ")"

def tagSet (tags : TagSet) : String :=
  "\x7b" ++ ", ".intercalate (tags.toList.map quoted) ++ "\x7d"

def state : JobState → String
  | .pending => "Pending"
  | .cancelled singleId => fields "Cancelled" [("single_id", toString singleId)]
  | .successful => "Successful"

def network (n : NetworkRequirement) : String :=
  fields "NetworkRequirement"
    [("network", timeout n.network), ("unmetered", timeout n.unmetered)]

def retry (r : RetryConstraint) : String :=
  fields "RetryConstraint"
    [("retry", toString r.retry),
      ("new_delay", optional Duration.text r.newDelay),
      ("new_priority", optional toString r.newPriority),
      ("new_network", optional network r.newNetwork)]

/-- The fields of a job on one line. -/
def job {ω : Type} (job : Job ω) : String :=
  "JobDescriptor \x7b " ++ ", ".intercalate (
    [("id", quoted job.id),
      ("persistent", toString job.persistent),
      ("priority", toString job.priority),
      ("group_id", optional quoted job.groupId),
      ("run_count", toString job.runCount),
      ("created_at", toString job.createdAt),
      ("delay_until", bound job.delayUntil),
      ("insertion_order", optional toString job.insertionOrder),
      ("running_session", s!"SessionId({job.session.number})"),
      ("requires_network_until", bound job.windows.network),
      ("requires_unmetered_network_until", bound job.windows.unmetered),
      ("deadline", bound job.deadline),
      ("cancel_on_deadline", toString job.cancelOnDeadline),
      ("tags", optional tagSet job.tags),
      ("state", state job.state),
      ("retry_constraint", optional retry job.retry)].map
        fun (field, value) => field ++ ": " ++ value)
    ++ ", .. \x7d"

end Description

@[inherit_doc Description.job]
def Job.description {ω : Type} (job : Job ω) : String := Description.job job

end DeferredJobs
