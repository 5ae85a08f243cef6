import DeferredJobs.Encoding.Codec
import DeferredJobs.Params

/-!
# Stored layout

The codecs of everything that is stored: field names, variant names, and which fields may be left
out. Bounds and timeouts are variants, sessions plain numbers.
-/

namespace DeferredJobs.Encoding

open Document

/-! ### Time -/

instance : Codec TimeBound where
  shape := .variant [("at", shape Int64)]
  encode
    | .never => .text "never"
    | .upTo t => .variant "at" (encode t)
    | .forever => .text "forever"
  decode d := do
    let (name, payload) ← choice? d
    match name with
    | "never" => unitPayload payload; return .never
    | "at" => return .upTo (← decode (← payload))
    | "forever" => unitPayload payload; return .forever
    | _ => none

instance : Codec Timeout where
  shape := .variant [("after_ms", shape Duration)]
  encode
    | .never => .text "never"
    | .forever => .text "forever"
    | .after d => .variant "after_ms" (encode d)
  decode d := do
    let (name, payload) ← choice? d
    match name with
    | "never" => unitPayload payload; return .never
    | "forever" => unitPayload payload; return .forever
    | "after_ms" => return .after (← decode (← payload))
    | _ => none

instance : Codec SessionId where
  shape := shape Int64
  encode s := encode s.number
  decode d := (decode d).map SessionId.mk

/-! ### Names -/

/-- The stored name of a connectivity. -/
def connectivityName : Connectivity → String
  | .disconnected => "disconnected"
  | .metered => "metered"
  | .unmetered => "unmetered"

instance : Codec Connectivity where
  shape := .scalar
  encode c := .text (connectivityName c)
  decode d := decodeNamed
    ([Connectivity.disconnected, .metered, .unmetered].map fun c => (connectivityName c, c)) d

instance : Codec ResultCode where
  shape := .scalar
  encode c := .text c.text
  decode d := decodeNamed (ResultCode.all.map fun c => (c.text, c)) d

/-- The stored name of a reason. -/
def reasonName : CancelReason → String
  | .reachedRetryLimit => "reached_retry_limit"
  | .cancelledWhileRunning => "cancelled_while_running"
  | .singleInstanceQueued => "single_instance_id_queued"
  | .cancelledViaShouldReRun => "cancelled_via_should_re_run"
  | .singleInstanceWhileRunning => "single_instance_while_running"
  | .reachedDeadline => "reached_deadline"

instance : Codec CancelReason where
  shape := .scalar
  encode r := .text (reasonName r)
  decode d := decodeNamed
    ([CancelReason.reachedRetryLimit, .cancelledWhileRunning, .singleInstanceQueued,
      .cancelledViaShouldReRun, .singleInstanceWhileRunning, .reachedDeadline].map
        fun r => (reasonName r, r)) d

instance : Codec Eligibility where
  shape := .variant [("delayed", .fields [("until", shape Int64)])]
  encode
    | .runnable => .text "runnable"
    | .forcedByDeadline => .text "forced_by_deadline"
    | .delayed wake => .variant "delayed" (.fields [("until", encode wake)])
    | .awaitingNetwork => .text "awaiting_network"
    | .awaitingUnmetered => .text "awaiting_unmetered_network"
    | .cancelled => .text "cancelled"
    | .hitDeadline => .text "hit_deadline"
    | .completed => .text "completed"
  decode d := do
    let (name, payload) ← choice? d
    if name = "delayed" then
      return .delayed (← (← fields? [] (← payload)).required "until")
    else
      unitPayload payload
      [("runnable", Eligibility.runnable), ("forced_by_deadline", .forcedByDeadline),
        ("awaiting_network", .awaitingNetwork), ("awaiting_unmetered_network", .awaitingUnmetered),
        ("cancelled", .cancelled), ("hit_deadline", .hitDeadline),
        ("completed", .completed)].lookup name

/-- States are written in reports and never read. -/
def encodeState (s : JobState) : Tree := .text s.text

/-! ### Records of fields -/

/-- The fields of a network requirement. -/
def requirementLayout : List (String × Shape) :=
  [("network", shape Timeout), ("unmetered", shape Timeout)]

instance : Codec NetworkRequirement where
  shape := .fields requirementLayout
  encode r := .fields [("network", encode r.network), ("unmetered", encode r.unmetered)]
  decode d := do
    let fs ← fields? requirementLayout d
    return { network := ← fs.required "network", unmetered := ← fs.required "unmetered" }

/-- The fields of a retry constraint. -/
def retryLayout : List (String × Shape) :=
  [("retry", shape Bool), ("new_delay", shape (Option Duration)),
   ("new_priority", shape (Option Int32)), ("new_network", shape (Option NetworkRequirement))]

instance : Codec RetryConstraint where
  shape := .fields retryLayout
  encode r := .fields
    [("retry", encode r.retry),
      ("new_delay", encode r.newDelay),
      ("new_priority", encode r.newPriority),
      ("new_network", encode r.newNetwork)]
  decode d := do
    let fs ← fields? retryLayout d
    return {
      retry := ← fs.required "retry"
      newDelay := ← fs.defaulted "new_delay" none
      newPriority := ← fs.defaulted "new_priority" none
      newNetwork := ← fs.defaulted "new_network" none }

/-- The fields of constraints. -/
def constraintsLayout : List (String × Shape) :=
  [("delay_until", shape TimeBound), ("requires_network_until", shape TimeBound),
   ("requires_unmetered_network_until", shape TimeBound), ("deadline", shape TimeBound),
   ("cancel_on_deadline", shape Bool)]

instance : Codec Constraints where
  shape := .fields constraintsLayout
  encode c := .fields
    [("delay_until", encode c.delayUntil),
      ("requires_network_until", encode c.windows.network),
      ("requires_unmetered_network_until", encode c.windows.unmetered),
      ("deadline", encode c.deadline),
      ("cancel_on_deadline", encode c.cancelOnDeadline)]
  decode d := do
    let fs ← fields? constraintsLayout d
    return {
      delayUntil := ← fs.required "delay_until"
      windows := {
        network := ← fs.required "requires_network_until"
        unmetered := ← fs.required "requires_unmetered_network_until" }
      deadline := ← fs.required "deadline"
      cancelOnDeadline := ← fs.required "cancel_on_deadline" }

/-- The fields of a deadline policy. -/
def policyLayout : List (String × Shape) :=
  [("after", shape Duration), ("cancel", shape Bool)]

instance : Codec DeadlinePolicy where
  shape := .fields policyLayout
  encode p := .fields [("after", encode p.after), ("cancel", encode p.cancel)]
  decode d := do
    let fs ← fields? policyLayout d
    return { after := ← fs.required "after", cancel := ← fs.defaulted "cancel" false }

/-- The fields of parameters. -/
def paramsLayout : List (String × Shape) :=
  [("priority", shape Int32), ("group_id", shape (Option String)),
   ("single_id", shape (Option String)), ("persistent", shape Bool), ("tags", shape TagSet),
   ("delay", shape Duration), ("requires_network", shape Timeout),
   ("requires_unmetered_network", shape Timeout), ("deadline", shape (Option DeadlinePolicy))]

instance : Codec Params where
  shape := .fields paramsLayout
  encode p := .fields
    [("priority", encode p.priority),
      ("group_id", encode p.groupId),
      ("single_id", encode p.singleId),
      ("persistent", encode p.persistent),
      ("tags", encode p.tags),
      ("delay", encode p.delay),
      ("requires_network", encode p.network),
      ("requires_unmetered_network", encode p.unmetered),
      ("deadline", encode p.deadline)]
  decode d := do
    let fs ← fields? paramsLayout d
    return {
      priority := ← fs.defaulted "priority" 0
      groupId := ← fs.defaulted "group_id" none
      singleId := ← fs.defaulted "single_id" none
      persistent := ← fs.defaulted "persistent" false
      tags := ← fs.defaulted "tags" TagSet.empty
      delay := ← fs.defaulted "delay" Duration.zero
      network := ← fs.defaulted "requires_network" Timeout.never
      unmetered := ← fs.defaulted "requires_unmetered_network" Timeout.never
      deadline := ← fs.defaulted "deadline" none }

/-- The fields of a record. -/
def recordLayout : List (String × Shape) :=
  [("id", shape String), ("persistent", shape Bool), ("priority", shape Int32),
   ("group_id", shape (Option String)), ("run_count", shape UInt32), ("created_at", shape Int64),
   ("delay_until", shape TimeBound), ("insertion_order", shape (Option Int64)),
   ("running_session", shape SessionId), ("requires_network_until", shape TimeBound),
   ("requires_unmetered_network_until", shape TimeBound), ("deadline", shape TimeBound),
   ("cancel_on_deadline", shape Bool), ("tags", shape (Option TagSet)), ("cancelled", shape Bool),
   ("cancelled_single_id", shape Bool), ("successful", shape Bool),
   ("retry_constraint", shape (Option RetryConstraint))]

instance : Codec Record where
  shape := .fields recordLayout
  encode r := .fields
    [("id", encode r.id),
      ("persistent", encode r.persistent),
      ("priority", encode r.priority),
      ("group_id", encode r.groupId),
      ("run_count", encode r.runCount),
      ("created_at", encode r.createdAt),
      ("delay_until", encode r.delayUntil),
      ("insertion_order", encode r.insertionOrder),
      ("running_session", encode r.session),
      ("requires_network_until", encode r.windows.network),
      ("requires_unmetered_network_until", encode r.windows.unmetered),
      ("deadline", encode r.deadline),
      ("cancel_on_deadline", encode r.cancelOnDeadline),
      ("tags", encode r.tags),
      ("cancelled", encode r.cancelled),
      ("cancelled_single_id", encode r.cancelledSingleId),
      ("successful", encode r.successful),
      ("retry_constraint", encode r.retry)]
  decode d := do
    let fs ← fields? recordLayout d
    return {
      id := ← fs.required "id"
      persistent := ← fs.required "persistent"
      priority := ← fs.required "priority"
      groupId := ← fs.optional "group_id"
      runCount := ← fs.required "run_count"
      createdAt := ← fs.required "created_at"
      delayUntil := ← fs.required "delay_until"
      insertionOrder := ← fs.optional "insertion_order"
      session := ← fs.required "running_session"
      windows := {
        network := ← fs.required "requires_network_until"
        unmetered := ← fs.required "requires_unmetered_network_until" }
      deadline := ← fs.required "deadline"
      cancelOnDeadline := ← fs.required "cancel_on_deadline"
      tags := ← fs.optional "tags"
      cancelled := ← fs.defaulted "cancelled" false
      cancelledSingleId := ← fs.defaulted "cancelled_single_id" false
      successful := ← fs.defaulted "successful" false
      retry := ← fs.defaulted "retry_constraint" none }

end DeferredJobs.Encoding
