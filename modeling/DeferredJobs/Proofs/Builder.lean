import DeferredJobs.Proofs.Job.Construction
import DeferredJobs.Work.Rehearsal

/-!
# What settings amount to

A builder keeps the values that it is given apart from the notes of which required fields have been
given one. Both go back to the same settings, and `Setting.value?` says what a setting gives to
which field.

* **One setting** (`Builder.provides_set`, `Builder.held_set`): a field is provided, and its value
  replaced, by the settings that give it one.
* **A list of settings** (`Builder.provides_ofSettings`, `Builder.held_ofSettings`): so what counts
  of a list is the value that it gives to each field last, `Setting.last?`.
* **Building** (`Builder.reflects_of_build`): a field that is not missing has a value, the work item
  among them, so that nothing is refused but for missing fields or an empty id; and a job that is
  built has the last values.
* **Order** (`Setting.Reordered.last?_eq`): settings of different fields can be exchanged.

`Builder.last_setting_counts` puts this together.
-/

namespace DeferredJobs

variable {ω : Type}

/-! ### Fields and their values -/

/-- What settings give values to. The deadline comes with whether it ends the job. -/
inductive Field where
  | required (field : RequiredField)
  | runCount | insertionOrder | deadline | tags

/-- The values that a field can be given. -/
abbrev Field.Value (ω : Type) : Field → Type
  | required .id => String
  | required .persistent => Bool
  | required .priority => Int32
  | required .groupId => Option String
  | required .work => ω
  | required .createdAt => Nanos
  | required .delayUntil => TimeBound
  | required .session => SessionId
  | required .networkUntil => TimeBound
  | required .unmeteredUntil => TimeBound
  | runCount => UInt32
  | insertionOrder => Int64
  | deadline => TimeBound × Bool
  | tags => Option TagSet

namespace Setting

/-- The value that a setting gives to a field, if it gives one. -/
def value? : Setting ω → (f : Field) → Option (f.Value ω)
  | .id v, .required .id => some v
  | .persistent v, .required .persistent => some v
  | .priority v, .required .priority => some v
  | .groupId v, .required .groupId => some v
  | .work v, .required .work => some v
  | .createdAt v, .required .createdAt => some v
  | .delayUntil v, .required .delayUntil => some v
  | .session v, .required .session => some v
  | .networkUntil v, .required .networkUntil => some v
  | .unmeteredUntil v, .required .unmeteredUntil => some v
  | .windows t network unmetered, .required .networkUntil =>
    some (NetworkWindows.sealedAt t network unmetered).network
  | .windows t network unmetered, .required .unmeteredUntil =>
    some (NetworkWindows.sealedAt t network unmetered).unmetered
  | .runCount v, .runCount => some v
  | .insertionOrder v, .insertionOrder => some v
  | .deadline v ends, .deadline => some (v, ends)
  | .tags v, .tags => some v
  | _, _ => none

/-- The value that settings give to a field last, if they give it any. -/
def last? (settings : List (Setting ω)) (f : Field) : Option (f.Value ω) :=
  (settings.filterMap (·.value? f)).getLast?

theorem last?_cons (s : Setting ω) (settings : List (Setting ω)) (f : Field) :
    last? (s :: settings) f = (last? settings f).or (s.value? f) := by
  rw [last?, List.filterMap_cons]
  cases s.value? f with
  | none => exact (Option.or_none).symm
  | some value => rw [List.getLast?_cons, Option.or_some, last?]

theorem last?_eq_none_iff {settings : List (Setting ω)} {f : Field} :
    last? settings f = none ↔ ∀ s ∈ settings, s.value? f = none := by
  rw [last?, List.getLast?_eq_none_iff, List.filterMap_eq_nil_iff]

end Setting

namespace Builder

open Setting (last?)

variable {b : Builder ω} {job : Job ω} {settings : List (Setting ω)}

/-- The value that a builder holds for a field, which may be none for the work item and for the
place in the queue only. -/
def held (b : Builder ω) : (f : Field) → Option (f.Value ω)
  | .required .id => some b.profile.id
  | .required .persistent => some b.profile.persistent
  | .required .priority => some b.profile.priority
  | .required .groupId => some b.profile.groupId
  | .required .work => b.work
  | .required .createdAt => some b.profile.createdAt
  | .required .delayUntil => some b.profile.delayUntil
  | .required .session => some b.profile.session
  | .required .networkUntil => some b.profile.windows.network
  | .required .unmeteredUntil => some b.profile.windows.unmetered
  | .runCount => some b.profile.runCount
  | .insertionOrder => b.profile.insertionOrder
  | .deadline => some (b.profile.deadline, b.profile.cancelOnDeadline)
  | .tags => some b.profile.tags

/-! ### Settings one after the other -/

/-- A setting provides the required fields that it gives a value. -/
theorem provides_set (b : Builder ω) (s : Setting ω) (field : RequiredField) :
    (b.set s).provides field = ((s.value? (.required field)).isSome || b.provides field) := by
  cases s <;> cases field <;> rfl

/-- A setting replaces the values of the fields that it gives one. -/
theorem held_set (b : Builder ω) (s : Setting ω) (f : Field) :
    (b.set s).held f = (s.value? f).or (b.held f) := by
  cases f with
  | required field => cases s <;> cases field <;> rfl
  | runCount | insertionOrder | deadline | tags => cases s <;> rfl

/-- **Notes.** A required field is provided if some setting gives it a value. -/
theorem provides_ofSettings (settings : List (Setting ω)) (field : RequiredField) :
    (ofSettings settings).provides field = (last? settings (.required field)).isSome := by
  -- on any builder, the settings add to what is provided
  suffices added : ∀ b : Builder ω, (settings.foldl set b).provides field =
      ((last? settings (.required field)).isSome || b.provides field) from
    (added {}).trans (Bool.or_false _)
  induction settings with
  | nil => exact fun _ => rfl
  | cons s settings ih =>
    intro b
    rw [List.foldl_cons, ih, provides_set, Setting.last?_cons, Option.isSome_or, Bool.or_assoc]

/-- **Values.** A field holds the value that it is given last, or the one from the start. -/
theorem held_ofSettings (settings : List (Setting ω)) (f : Field) :
    (ofSettings settings).held f = (last? settings f).or (held {} f) := by
  suffices replaced : ∀ b : Builder ω,
      (settings.foldl set b).held f = (last? settings f).or (b.held f) from replaced {}
  induction settings with
  | nil => exact fun _ => (Option.none_or).symm
  | cons s settings ih =>
    intro b
    rw [List.foldl_cons, ih, held_set, Setting.last?_cons, Option.or_assoc]

/-- No setting asks for a retry. -/
theorem retry_ofSettings (settings : List (Setting ω)) :
    (ofSettings settings).profile.retry = none := by
  have unasked (b : Builder ω) (s : Setting ω) : (b.set s).profile.retry = b.profile.retry := by
    cases s <;> rfl
  exact kept_ofSettings (·.profile.retry) unasked settings

/-! ### Missing fields -/

theorem mem_missing {field : RequiredField} : field ∈ b.missing ↔ b.provides field = false := by
  have listed : field ∈ RequiredField.all := by cases field <;> decide
  simp [missing, listed]

theorem missing_sublist (b : Builder ω) : b.missing.Sublist RequiredField.all := List.filter_sublist

theorem nodup_missing (b : Builder ω) : b.missing.Nodup :=
  b.missing_sublist.nodup (by decide : RequiredField.all.Nodup)

theorem mem_missing_ofSettings {field : RequiredField} :
    field ∈ (ofSettings settings).missing ↔ ∀ s ∈ settings, s.value? (.required field) = none := by
  rw [mem_missing, provides_ofSettings, Option.isSome_eq_false_iff, Option.isNone_iff_eq_none,
    Setting.last?_eq_none_iff]

/-- Where nothing is missing, every required field has been given a value. -/
theorem exists_last?_of_complete (complete : (ofSettings settings).missing = [])
    (field : RequiredField) : ∃ value, last? settings (.required field) = some value := by
  rw [← Option.isSome_iff_exists, ← provides_ofSettings, ← Bool.not_eq_false, ← mem_missing,
    complete]
  exact List.not_mem_nil

/-- Where nothing is missing, the value of a required field is the one that it was given last. -/
theorem last?_eq_held (complete : (ofSettings settings).missing = []) (field : RequiredField) :
    last? settings (.required field) = (ofSettings settings).held (.required field) := by
  obtain ⟨value, last⟩ := exists_last?_of_complete complete field
  rw [held_ofSettings, last, Option.some_or]

/-- **Where nothing is missing, there is a work item.** -/
theorem exists_work_of_complete (complete : (ofSettings settings).missing = []) :
    ∃ work, (ofSettings settings).work = some work := by
  obtain ⟨work, last⟩ := exists_last?_of_complete complete .work
  exact ⟨work, (last?_eq_held complete .work).symm.trans last⟩

theorem last?_id_eq_iff (complete : (ofSettings settings).missing = []) {id : String} :
    last? settings (.required .id) = some id ↔ (ofSettings settings).profile.id = id := by
  rw [last?_eq_held complete]
  exact Option.some_inj

/-! ### Building -/

/-- **Refusals.** What is missing is found before an empty id, and nothing else is refused. -/
theorem build_ofSettings_eq_error_iff [Work ω] {e : BuildError} :
    (ofSettings settings).build = .error e ↔
      ((ofSettings settings).missing ≠ [] ∧ e = .missingFields (ofSettings settings).missing) ∨
        ((ofSettings settings).missing = [] ∧ last? settings (.required .id) = some "" ∧
          e = .emptyId) := by
  by_cases complete : (ofSettings settings).missing = []
  · rw [last?_id_eq_iff complete]
    by_cases unnamed : (ofSettings settings).profile.id = ""
    · have refused : (ofSettings settings).build = .error .emptyId := by
        rw [build, buildWith_of_unnamed complete unnamed]
        rfl
      simp [refused, complete, unnamed, eq_comm]
    · obtain ⟨work, supplied⟩ := exists_work_of_complete complete
      simp [build_of_complete complete unnamed supplied, complete, unnamed]
  · have refused : (ofSettings settings).build =
        .error (.missingFields (ofSettings settings).missing) := by
      rw [build, buildWith_of_missing complete]
      rfl
    simp [refused, complete, eq_comm]

/-- Where a builder refuses, no work item learns anything. -/
theorem buildWith_ofSettings_of_error [Work ω] {e : BuildError}
    (h : (ofSettings settings).build = .error e) {m : Type → Type} [Monad m]
    (learn : ω → Record → m ω) : (ofSettings settings).buildWith learn = return .error e := by
  obtain ⟨incomplete, rfl⟩ | ⟨complete, unnamed, rfl⟩ := build_ofSettings_eq_error_iff.mp h
  · exact buildWith_of_missing incomplete
  · exact buildWith_of_unnamed complete ((last?_id_eq_iff complete).mp unnamed)

end Builder

/-- A job as settings describe it: each field has the value that it was given last, or its default,
and the network window is raised to cover the unmetered one. -/
structure Job.Reflects (job : Job ω) (settings : List (Setting ω)) : Prop where
  id : Setting.last? settings (.required .id) = some job.id
  persistent : Setting.last? settings (.required .persistent) = some job.persistent
  priority : Setting.last? settings (.required .priority) = some job.priority
  groupId : Setting.last? settings (.required .groupId) = some job.groupId
  createdAt : Setting.last? settings (.required .createdAt) = some job.createdAt
  delayUntil : Setting.last? settings (.required .delayUntil) = some job.delayUntil
  session : Setting.last? settings (.required .session) = some job.session
  network : ∃ network, Setting.last? settings (.required .networkUntil) = some network ∧
    job.windows.network = max network job.windows.unmetered
  unmetered : Setting.last? settings (.required .unmeteredUntil) = some job.windows.unmetered
  runCount : job.runCount = (Setting.last? settings .runCount).getD 0
  insertionOrder : job.insertionOrder = Setting.last? settings .insertionOrder
  deadline : (job.deadline, job.cancelOnDeadline) =
    (Setting.last? settings .deadline).getD (.forever, false)
  tags : job.tags = (Setting.last? settings .tags).getD none
  /-- What no setting sets. -/
  new : job.status = .fresh ∧ job.retry = none ∧ job.lastFailure = none ∧
    job.cancelNotified = false

namespace Builder

open Setting (last?)

variable {settings : List (Setting ω)}

/-- **A built job is as its settings describe it.** Its work item, the last one that was supplied,
has learnt its record. -/
theorem reflects_of_build [Work ω] {job : Job ω} (h : (ofSettings settings).build = .ok job) :
    job.Reflects settings ∧ ∃ work, last? settings (.required .work) = some work ∧
      ∀ {m : Type → Type} [Monad m] (learn : ω → Record → m ω),
        (ofSettings settings).buildWith learn = do
          let work' ← learn work job.toRecord
          return .ok { job with work := work' } := by
  obtain ⟨complete, named, work, supplied, rfl⟩ := exists_work_of_build h
  refine ⟨?_, work, (last?_eq_held complete .work).trans supplied, fun _ =>
    buildWith_of_complete complete named supplied⟩
  constructor
  case id => exact last?_eq_held complete .id
  case persistent => exact last?_eq_held complete .persistent
  case priority => exact last?_eq_held complete .priority
  case groupId => exact last?_eq_held complete .groupId
  case createdAt => exact last?_eq_held complete .createdAt
  case delayUntil => exact last?_eq_held complete .delayUntil
  case session => exact last?_eq_held complete .session
  case network => exact ⟨_, last?_eq_held complete .networkUntil, rfl⟩
  case unmetered => exact last?_eq_held complete .unmeteredUntil
  case runCount =>
    exact Option.some.inj ((held_ofSettings settings .runCount).trans Option.or_some)
  case insertionOrder =>
    exact (held_ofSettings settings .insertionOrder).trans Option.or_none
  case deadline =>
    exact Option.some.inj ((held_ofSettings settings .deadline).trans Option.or_some)
  case tags => exact Option.some.inj ((held_ofSettings settings .tags).trans Option.or_some)
  case new => exact ⟨status_ofSettings settings, retry_ofSettings settings, rfl, rfl⟩

end Builder

/-! ### The order of settings -/

namespace Setting

/-- Two settings that have no field in common. -/
def Apart (s t : Setting ω) : Prop := ∀ f, s.value? f = none ∨ t.value? f = none

/-- Settings in another order, where settings of different fields have changed places. -/
inductive Reordered : List (Setting ω) → List (Setting ω) → Prop
  | refl (settings : List (Setting ω)) : Reordered settings settings
  | exchange (before after : List (Setting ω)) {s t : Setting ω} (apart : s.Apart t) :
      Reordered (before ++ s :: t :: after) (before ++ t :: s :: after)
  | trans {a b c : List (Setting ω)} : Reordered a b → Reordered b c → Reordered a c

/-- Each field is given the same values in the same order. -/
theorem Reordered.filterMap_value?_eq {a b : List (Setting ω)} (h : Reordered a b) (f : Field) :
    a.filterMap (·.value? f) = b.filterMap (·.value? f) := by
  induction h with
  | refl settings => rfl
  | @exchange before after s t apart =>
    have commute : [s, t].filterMap (·.value? f) = [t, s].filterMap (·.value? f) := by
      obtain silent | silent := apart f <;> simp [List.filterMap_cons, silent]
    have split (x y : Setting ω) : x :: y :: after = [x, y] ++ after := rfl
    rw [split, split, List.filterMap_append, List.filterMap_append, List.filterMap_append,
      List.filterMap_append, commute]
  | trans _ _ ih ih' => exact ih.trans ih'

theorem Reordered.last?_eq {a b : List (Setting ω)} (h : Reordered a b) (f : Field) :
    last? a f = last? b f := by
  rw [last?, last?, h.filterMap_value?_eq]

end Setting

namespace Builder

open Setting (last?)

/-- A builder is made up of its notes, its values, and what no setting sets. -/
theorem ext_held {a b : Builder ω} (provides : ∀ field, a.provides field = b.provides field)
    (held : ∀ f, a.held f = b.held f) (retry : a.profile.retry = b.profile.retry)
    (status : a.status = b.status) : a = b := by
  obtain ⟨_, ⟨_, _, _, _, _, _, _, _, _, ⟨_, _⟩, _, _, _, _⟩, _, _⟩ := a
  obtain ⟨_, ⟨_, _, _, _, _, _, _, _, _, ⟨_, _⟩, _, _, _, _⟩, _, _⟩ := b
  have required (field : RequiredField) := held (.required field)
  obtain ⟨deadline, ends⟩ := Prod.mk.inj (Option.some.inj (held .deadline))
  rw [Builder.mk.injEq, Profile.mk.injEq, NetworkWindows.mk.injEq]
  exact ⟨funext provides, ⟨Option.some.inj (required .id), Option.some.inj (required .persistent),
    Option.some.inj (required .priority), Option.some.inj (required .groupId),
    Option.some.inj (held .runCount), Option.some.inj (required .createdAt),
    Option.some.inj (required .delayUntil), held .insertionOrder,
    Option.some.inj (required .session), ⟨Option.some.inj (required .networkUntil),
      Option.some.inj (required .unmeteredUntil)⟩,
    deadline, ends, Option.some.inj (held .tags), retry⟩, required .work, status⟩

/-- **The last values count**, and nothing else about a list of settings. -/
theorem ofSettings_eq_of_last?_eq {a b : List (Setting ω)} (same : ∀ f, last? a f = last? b f) :
    ofSettings a = ofSettings b := by
  refine ext_held (fun field => ?_) (fun f => ?_) ?_ ?_
  · rw [provides_ofSettings, provides_ofSettings, same]
  · rw [held_ofSettings, held_ofSettings, same]
  · rw [retry_ofSettings, retry_ofSettings]
  · rw [status_ofSettings, status_ofSettings]

/-! ### All in all -/

/-- **The last setting counts.** Take settings in any order, with repetitions. Missing are the
required fields that no setting gives a value, in the order in which they are declared and each of
them once. A builder refuses to build a job if fields are missing, which it then lists, or else if
the last id is empty, and for no other reason, as where nothing is missing there is a work item; no
work item learns anything of a refusal. Otherwise there is a job, and each of its fields has the
value that it was given last, or its default if it was given none, except that the network window
is raised to the unmetered one. The work item that was supplied last learns the record of the job,
once, whatever effects learning has (with none, it is `Work.absorb`). The order of settings of
different fields makes no difference. -/
theorem last_setting_counts [Work ω] (settings : List (Setting ω)) :
    let b := ofSettings settings
    ((∀ field, field ∈ b.missing ↔ ∀ s ∈ settings, s.value? (.required field) = none) ∧
      b.missing.Sublist RequiredField.all ∧ b.missing.Nodup) ∧
    (∀ fields, b.build = .error (.missingFields fields) ↔ fields = b.missing ∧ fields ≠ []) ∧
    (b.build = .error .emptyId ↔ b.missing = [] ∧ last? settings (.required .id) = some "") ∧
    b.build ≠ .error .conflictingState ∧
    (∀ e, b.build = .error e → ∀ {m : Type → Type} [Monad m] (learn : ω → Record → m ω),
      b.buildWith learn = return .error e) ∧
    (b.missing = [] → b.work.isSome = true ∧
      (last? settings (.required .id) ≠ some "" → ∃ job, b.build = .ok job)) ∧
    (∀ job, b.build = .ok job → job.Reflects settings ∧
      ∃ work, last? settings (.required .work) = some work ∧
        ∀ {m : Type → Type} [Monad m] (learn : ω → Record → m ω),
          b.buildWith learn = do
            let work' ← learn work job.toRecord
            return .ok { job with work := work' }) ∧
    ∀ others, Setting.Reordered settings others → ofSettings others = b := by
  intro b
  refine ⟨⟨fun _ => mem_missing_ofSettings, b.missing_sublist, b.nodup_missing⟩, fun fields => ?_,
    ?_, ?_, fun e refused => buildWith_ofSettings_of_error refused, fun complete => ?_,
    fun job built => reflects_of_build built,
    fun others reordered => (ofSettings_eq_of_last?_eq reordered.last?_eq).symm⟩
  · rw [build_ofSettings_eq_error_iff]
    constructor
    · rintro (⟨incomplete, same⟩ | ⟨-, -, other⟩)
      · obtain rfl := BuildError.missingFields.inj same
        exact ⟨rfl, incomplete⟩
      · contradiction
    · rintro ⟨rfl, incomplete⟩
      exact .inl ⟨incomplete, rfl⟩
  · rw [build_ofSettings_eq_error_iff]
    constructor
    · rintro (⟨-, other⟩ | ⟨complete, unnamed, -⟩)
      · contradiction
      · exact ⟨complete, unnamed⟩
    · rintro ⟨complete, unnamed⟩
      exact .inr ⟨complete, unnamed, rfl⟩
  · rw [Ne, build_ofSettings_eq_error_iff]
    rintro (⟨-, other⟩ | ⟨-, -, other⟩) <;> contradiction
  · obtain ⟨work, supplied⟩ := exists_work_of_complete complete
    refine ⟨Option.isSome_of_eq_some supplied, fun named => ?_⟩
    exact ⟨_, build_of_complete complete (mt (last?_id_eq_iff complete).mpr named) supplied⟩

/-- The id and the work item are set twice, and the windows are sealed after they have been set. At
first the session is missing; with it there is a job, also if the tags come before the work item. -/
theorem last_setting_counts_sealed_again :
    let first : ScriptedWork := ⟨⟨[], {}, [], 3⟩⟩
    let second : ScriptedWork := ⟨⟨[], {}, [], 4⟩⟩
    let tags : Setting ScriptedWork := .tags (some (.ofList ["b", "a"]))
    let before : List (Setting ScriptedWork) :=
      [.id "", .priority 3, .unmeteredUntil .forever, .networkUntil (.upTo 7), .work first,
        .groupId none, .persistent true, .windows 20 .never (.after (.ofMillis 5)), .id "sync",
        .createdAt 10, .delayUntil .never, .networkUntil .never]
    let settings := before ++ .work second :: tags :: [.session ⟨1⟩]
    (ofSettings before).build = .error (.missingFields [.session]) ∧
    ∃ job, (ofSettings settings).build = .ok job ∧ job.id = "sync" ∧
      job.windows = ⟨.upTo 5000020, .upTo 5000020⟩ ∧ job.tags = some (.ofList ["a", "b"]) ∧
      job.deadline = .forever ∧ last? settings (.required .work) = some second ∧
      (ofSettings (before ++ tags :: .work second :: [.session ⟨1⟩])).build = .ok job := by
  intro first second tags before settings
  obtain ⟨-, refused, -⟩ := last_setting_counts before
  obtain ⟨-, -, -, -, -, complete, described, reordered⟩ := last_setting_counts settings
  obtain ⟨job, built⟩ := (complete (by decide)).2 (by decide)
  obtain ⟨reflects, -⟩ := described job built
  have apart : (Setting.work second).Apart tags := by
    intro f
    cases f with
    | required field => exact .inr rfl
    | runCount | insertionOrder | deadline | tags => exact .inl rfl
  obtain ⟨network, last, raised⟩ := reflects.network
  obtain rfl := Option.some.inj last
  have unmetered : .upTo 5000020 = job.windows.unmetered := Option.some.inj reflects.unmetered
  rw [← unmetered] at raised
  refine ⟨(refused _).mpr (by decide), job, built, Option.some.inj reflects.id.symm,
    (NetworkWindows.mk.injEq ..).mpr ⟨raised, unmetered.symm⟩, reflects.tags,
    congrArg Prod.fst reflects.deadline, rfl, ?_⟩
  rw [reordered _ (.exchange before _ apart), built]

end Builder

end DeferredJobs
