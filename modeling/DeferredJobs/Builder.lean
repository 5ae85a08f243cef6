import DeferredJobs.Job

/-!
# Building jobs

A `Builder` collects what a job needs, one `Setting` after the other. `Builder.build` refuses to
invent any of the required fields: the error names all that are missing. `Job.restore` builds a
job from a stored record.

The work item of a new job learns what it has become part of. `Builder.buildWith` and
`Job.restoreWith` leave open how, so that what it learns can be observed.
-/

namespace DeferredJobs

/-- A field that has no default. -/
inductive RequiredField where
  | id | persistent | priority | groupId | work | createdAt | delayUntil | session
  | networkUntil | unmeteredUntil
deriving DecidableEq

namespace RequiredField

/-- Every required field, in the order in which errors name them. -/
def all : List RequiredField :=
  [id, persistent, priority, groupId, work, createdAt, delayUntil, session, networkUntil,
    unmeteredUntil]

/-- The name of a field in an error. -/
def text : RequiredField → String
  | id => "id"
  | persistent => "persistent"
  | priority => "priority"
  | groupId => "group id"
  | work => "work"
  | createdAt => "created at"
  | delayUntil => "delay until"
  | session => "running session"
  | networkUntil => "requires network until"
  | unmeteredUntil => "requires unmetered network until"

end RequiredField

/-- Why no job was built. -/
inductive BuildError where
  | missingFields (fields : List RequiredField)
  | emptyId
  /-- A record's flags claim that the job was cancelled and succeeded. -/
  | conflictingState
deriving DecidableEq

/-- The error in words. -/
def BuildError.message : BuildError → String
  | missingFields fields =>
    "must provide all required fields, missing: " ++ ", ".intercalate (fields.map (·.text))
  | emptyId => "job id must not be empty"
  | conflictingState => "job cannot be both cancelled and successful"

/-- The profile of a job of which nothing is known. -/
def Profile.blank : Profile where
  id := ""
  persistent := false
  priority := 0
  groupId := none
  runCount := 0
  createdAt := 0
  delayUntil := .never
  insertionOrder := none
  session := ⟨0⟩
  windows := ⟨.never, .never⟩
  deadline := .forever
  cancelOnDeadline := false
  tags := none
  retry := none

/-- The parts of a job to be. A required field has some value from the start, which does not count
before the field is provided; the values that the other fields start with are their defaults. -/
structure Builder (ω : Type) where
  /-- Whether a required field has been provided. -/
  provides : RequiredField → Bool := fun _ => false
  profile : Profile := .blank
  work : Option ω := none
  status : Status := .fresh

/-- A call that sets fields of a builder. -/
inductive Setting (ω : Type) where
  | id (id : String)
  | persistent (persistent : Bool)
  | priority (priority : Int32)
  | groupId (groupId : Option String)
  | work (work : ω)
  | createdAt (createdAt : Nanos)
  | delayUntil (delayUntil : TimeBound)
  | session (session : SessionId)
  | networkUntil (bound : TimeBound)
  | unmeteredUntil (bound : TimeBound)
  /-- Both network windows, sealed at `now`. -/
  | windows (now : Nanos) (network unmetered : Timeout)
  | runCount (runCount : UInt32)
  | insertionOrder (order : Int64)
  | deadline (deadline : TimeBound) (cancelOnDeadline : Bool)
  | tags (tags : Option TagSet)

namespace Builder

variable {ω : Type}

/-! ### Providing fields -/

/-- Notes that a required field has been provided. -/
def provide (b : Builder ω) (field : RequiredField) : Builder ω :=
  { b with provides := fun f => f = field || b.provides f }

def withId (b : Builder ω) (id : String) : Builder ω := { b.provide .id with profile.id := id }

def withPersistent (b : Builder ω) (persistent : Bool) : Builder ω :=
  { b.provide .persistent with profile.persistent := persistent }

def withPriority (b : Builder ω) (priority : Int32) : Builder ω :=
  { b.provide .priority with profile.priority := priority }

/-- Jobs without a group are provided with `none`. -/
def withGroupId (b : Builder ω) (groupId : Option String) : Builder ω :=
  { b.provide .groupId with profile.groupId := groupId }

def withWork (b : Builder ω) (work : ω) : Builder ω := { b.provide .work with work := some work }

def withCreatedAt (b : Builder ω) (createdAt : Nanos) : Builder ω :=
  { b.provide .createdAt with profile.createdAt := createdAt }

def withDelayUntil (b : Builder ω) (delayUntil : TimeBound) : Builder ω :=
  { b.provide .delayUntil with profile.delayUntil := delayUntil }

def withSession (b : Builder ω) (session : SessionId) : Builder ω :=
  { b.provide .session with profile.session := session }

def withNetworkUntil (b : Builder ω) (bound : TimeBound) : Builder ω :=
  { b.provide .networkUntil with profile.windows.network := bound }

def withUnmeteredUntil (b : Builder ω) (bound : TimeBound) : Builder ω :=
  { b.provide .unmeteredUntil with profile.windows.unmetered := bound }

def withRunCount (b : Builder ω) (runCount : UInt32) : Builder ω :=
  { b with profile.runCount := runCount }

def withInsertionOrder (b : Builder ω) (order : Int64) : Builder ω :=
  { b with profile.insertionOrder := some order }

def withDeadline (b : Builder ω) (deadline : TimeBound) (cancelOnDeadline : Bool) : Builder ω :=
  { b with profile.deadline := deadline, profile.cancelOnDeadline := cancelOnDeadline }

def withTags (b : Builder ω) (tags : Option TagSet) : Builder ω := { b with profile.tags := tags }

/-- Provides both network windows, sealed at `now`. -/
def sealWindows (b : Builder ω) (now : Nanos) (network unmetered : Timeout) : Builder ω :=
  let windows := NetworkWindows.sealedAt now network unmetered
  (b.withNetworkUntil windows.network).withUnmeteredUntil windows.unmetered

/-- Carries out a setting. -/
def set (b : Builder ω) : Setting ω → Builder ω
  | .id id => b.withId id
  | .persistent persistent => b.withPersistent persistent
  | .priority priority => b.withPriority priority
  | .groupId groupId => b.withGroupId groupId
  | .work work => b.withWork work
  | .createdAt createdAt => b.withCreatedAt createdAt
  | .delayUntil delayUntil => b.withDelayUntil delayUntil
  | .session session => b.withSession session
  | .networkUntil bound => b.withNetworkUntil bound
  | .unmeteredUntil bound => b.withUnmeteredUntil bound
  | .windows now network unmetered => b.sealWindows now network unmetered
  | .runCount runCount => b.withRunCount runCount
  | .insertionOrder order => b.withInsertionOrder order
  | .deadline deadline cancelOnDeadline => b.withDeadline deadline cancelOnDeadline
  | .tags tags => b.withTags tags

/-- The builder after settings, one after the other. -/
def ofSettings (settings : List (Setting ω)) : Builder ω := settings.foldl set {}

/-! ### Building -/

/-- The required fields that are not provided, in order. -/
def missing (b : Builder ω) : List RequiredField := RequiredField.all.filter (!b.provides ·)

/-- The job that the parts make up with a work item. The network window is raised to cover the
unmetered one. -/
def assemble (b : Builder ω) (work : ω) : Job ω :=
  { b.profile with
    windows := b.profile.windows.covering
    status := b.status
    work }

/-- Builds the job. Its work item learns by `learn` what it has become part of, with whatever
effects this has in `m`. -/
def buildWith {m : Type → Type} [Monad m] (learn : ω → Record → m ω) (b : Builder ω) :
    m (Except BuildError (Job ω)) :=
  if !b.missing.isEmpty then return .error (.missingFields b.missing)
  else if b.profile.id.isEmpty then return .error .emptyId
  else match b.work with
    | none => return .error (.missingFields [.work])
    | some work => do
      let job := b.assemble work
      let work ← learn work job.toRecord
      return .ok { job with work }

/-- Builds the job; its work item learns what it has become part of. -/
def build [Work ω] (b : Builder ω) : Except BuildError (Job ω) :=
  Id.run (b.buildWith fun work record => pure (Work.absorb work record))

/-- Carries flags and a pending retry constraint over from storage. -/
def restored (b : Builder ω) (status : Status) (retry : Option RetryConstraint) : Builder ω :=
  { b with status, profile.retry := retry }

/-- The parts of the job that a record describes, set one after the other. A record without a place
in the queue leaves the place open. -/
def ofRecord (r : Record) (status : Status) (work : ω) : Builder ω :=
  let parts := ({} : Builder ω)
    |>.withId r.id
    |>.withPersistent r.persistent
    |>.withPriority r.priority
    |>.withGroupId r.groupId
    |>.withRunCount r.runCount
    |>.withWork work
    |>.withCreatedAt r.createdAt
    |>.withDelayUntil r.delayUntil
    |>.withSession r.session
    |>.withNetworkUntil r.windows.network
    |>.withUnmeteredUntil r.windows.unmetered
    |>.withDeadline r.deadline r.cancelOnDeadline
    |>.withTags r.tags
  let parts := match r.insertionOrder with
    | some order => parts.withInsertionOrder order
    | none => parts
  parts.restored status r.retry

end Builder

namespace Job

variable {ω : Type}

/-- Builds the job that a record describes, with a new work item that learns by `learn` what it
has become part of. Contradictory flags are found before an empty id. -/
def restoreWith {m : Type → Type} [Monad m] (learn : ω → Record → m ω) (r : Record) (work : ω) :
    m (Except BuildError (Job ω)) :=
  match Status.ofFlags? r.cancelled r.cancelledSingleId r.successful with
  | none => return .error .conflictingState
  | some status => (Builder.ofRecord r status work).buildWith learn

/-- Builds the job that a record describes, with a new work item. -/
def restore [Work ω] (r : Record) (work : ω) : Except BuildError (Job ω) :=
  Id.run (restoreWith (fun work record => pure (Work.absorb work record)) r work)

end Job

end DeferredJobs
