import DeferredJobs.Proofs.Params
import DeferredJobs.Proofs.Time.Offset

/-!
# Parameters and the readings of a clock

Parameters are anchored to a clock that may move while this happens. The clock is read twice: what
is counted from the creation of the job goes by the first reading, and the network windows go by the
second.

* **Offsets** (`offset_eq_offset_iff`): readings that differ lead to different instants, unless both
  are cut off at the last one.
* **Windows** (`NetworkWindows.sealedAt_eq_sealedAt_iff`): so windows tell when they were sealed, as
  long as a duration has a part in them.

`Params.toBuilder_anchored_iff` says what goes by which reading, and when a single reading would
have led to the same builder.
-/

namespace DeferredJobs

variable {now later : Nanos} {d : Duration}

/-! ### Offsets -/

/-- Different readings are told apart by what they lead to, unless it is the last instant. -/
theorem offset_eq_offset_iff :
    offset now d = offset later d ↔
      now = later ∨ offset now d = Int64.maxValue ∧ offset later d = Int64.maxValue := by
  simp only [← Int64.toInt_inj, toInt_offset_eq_min]
  omega

/-! ### Windows -/

namespace Timeout

@[simp] theorem sealedAt_never (now : Nanos) : never.sealedAt now = .never := rfl

@[simp] theorem sealedAt_forever (now : Nanos) : forever.sealedAt now = .forever := rfl

@[simp] theorem sealedAt_after (now : Nanos) (d : Duration) :
    (after d).sealedAt now = .upTo (offset now d) := rfl

theorem sealedAt_eq_sealedAt_iff {timeout : Timeout} :
    timeout.sealedAt now = timeout.sealedAt later ↔
      ∀ d, timeout.duration? = some d → offset now d = offset later d := by
  cases timeout <;> simp [duration?]

end Timeout

namespace TimeBound

/-- Only a bound without end reaches beyond the last instant. -/
theorem max_upTo_maxValue {b : TimeBound} (ends : b ≠ .forever) :
    max b (.upTo Int64.maxValue) = .upTo Int64.maxValue := by
  have within : b ≤ .upTo Int64.maxValue := by
    cases b with
    | never => exact never_le _
    | upTo t => exact upTo_le_upTo.mpr (Int64.le_maxValue t)
    | forever => contradiction
  exact Std.le_antisymm (Std.max_le_iff.mpr ⟨within, Std.le_refl _⟩) Std.right_le_max

end TimeBound

/-- The duration by which windows tell when they were sealed. An unmetered window that ends tells it
by itself, one that is over from the start leaves it to the network window, and one without end
hides it, as the network window is then without end as well. -/
def Params.timedBy? (p : Params) : Option Duration :=
  match p.unmetered with
  | .never => p.network.duration?
  | .after d => some d
  | .forever => none

theorem NetworkWindows.sealedAt_eq_sealedAt_iff {p : Params} :
    sealedAt now p.network p.unmetered = sealedAt later p.network p.unmetered ↔
      ∀ d, p.timedBy? = some d → offset now d = offset later d := by
  rw [Params.timedBy?, sealedAt, sealedAt, covering, covering, NetworkWindows.mk.injEq]
  cases p.unmetered with
  | never =>
    have alone (n : Nanos) : max (p.network.sealedAt n) .never = p.network.sealedAt n :=
      Std.LawfulOrderLeftLeaningMax.max_eq_left _ _ (TimeBound.never_le _)
    simp only [Timeout.sealedAt_never, alone, and_true]
    exact Timeout.sealedAt_eq_sealedAt_iff
  | forever =>
    have endless (n : Nanos) : max (p.network.sealedAt n) .forever = .forever :=
      Std.le_antisymm (TimeBound.le_forever _) Std.right_le_max
    simp [endless]
  | after d =>
    simp only [Timeout.sealedAt_after, TimeBound.upTo.injEq, Option.some.injEq, forall_eq']
    refine and_iff_right_of_imp fun same => ?_
    obtain rfl | ⟨last, last'⟩ := offset_eq_offset_iff.mp same
    · rfl
    · rw [last, last']
      cases p.network with
      | forever => rfl
      | never => rfl
      | after d' =>
        have ends (t : Nanos) : TimeBound.upTo t ≠ .forever := by simp
        rw [Timeout.sealedAt_after, Timeout.sealedAt_after, TimeBound.max_upTo_maxValue (ends _),
          TimeBound.max_upTo_maxValue (ends _)]

/-! ### Builders -/

namespace Builder

variable {ω : Type} (b : Builder ω)

/-- The value of a required field, if the field has been provided. -/
def provided? {α : Type} (field : RequiredField) (value : α) : Option α :=
  if b.provides field then some value else none

def createdAt : Option Nanos := b.provided? .createdAt b.profile.createdAt

def delayUntil : Option TimeBound := b.provided? .delayUntil b.profile.delayUntil

def networkUntil : Option TimeBound := b.provided? .networkUntil b.profile.windows.network

def unmeteredUntil : Option TimeBound := b.provided? .unmeteredUntil b.profile.windows.unmetered

def deadline : TimeBound := b.profile.deadline

end Builder

/-- The instants of a builder are what parameters ask for if they are anchored at `now`, and their
windows are sealed at `windowsAt`. -/
structure Builder.AnchoredAt {ω : Type} (b : Builder ω) (p : Params) (now windowsAt : Nanos) :
    Prop where
  createdAt : b.createdAt = some now
  undelayed (atOnce : p.delay.nanos = 0) : b.delayUntil = some .never
  delayed (waits : p.delay.nanos ≠ 0) : b.delayUntil = some (.upTo (offset now p.delay))
  deadline {policy : DeadlinePolicy} (names : p.deadline = some policy) :
    b.deadline = .upTo (offset now policy.after)
  networkUntil :
    b.networkUntil = some (NetworkWindows.sealedAt windowsAt p.network p.unmetered).network
  unmeteredUntil :
    b.unmeteredUntil = some (NetworkWindows.sealedAt windowsAt p.network p.unmetered).unmetered

theorem Builder.AnchoredAt.windows_eq {ω : Type} {b : Builder ω} {p : Params}
    {n n' t t' : Nanos} (h : b.AnchoredAt p n t) (h' : b.AnchoredAt p n' t') :
    NetworkWindows.sealedAt t p.network p.unmetered =
      NetworkWindows.sealedAt t' p.network p.unmetered := by
  have network := Option.some.inj (h.networkUntil.symm.trans h'.networkUntil)
  have unmetered := Option.some.inj (h.unmeteredUntil.symm.trans h'.unmeteredUntil)
  exact (NetworkWindows.mk.injEq ..).mpr ⟨network, unmetered⟩

namespace Params

variable {κ ω : Type} [Clock κ]

theorem toBuilder_anchoredAt (p : Params) (id : String) (clock : κ) (session : SessionId) :
    (p.toBuilder ω id clock session).1.AnchoredAt p (Clock.read clock).1
      (Clock.read (Clock.read clock).2).1 where
  createdAt := rfl
  undelayed atOnce := congrArg some (if_pos atOnce)
  delayed waits := congrArg some (if_neg waits)
  deadline {policy} names := by
    have counted : p.deadlineFrom (Clock.read clock).1 =
        (.upTo (offset (Clock.read clock).1 policy.after), policy.cancel) := by
      rw [deadlineFrom, names]
    exact congrArg Prod.fst counted
  networkUntil := rfl
  unmeteredUntil := rfl

/-- **Two readings.** What parameters ask for from the creation of the job on goes by the first
reading of the clock, and the network windows go by the next one. This is the same as if everything
went by one reading exactly if the two readings are the same, or no window tells when it was sealed:
none is timed, or the duration that they are timed by leads to the last instant from either
reading. -/
theorem toBuilder_anchored_iff (ω : Type) (p : Params) (id : String) (clock : κ)
    (session : SessionId) :
    let first := (Clock.read clock).1
    let second := (Clock.read (Clock.read clock).2).1
    let b := (p.toBuilder ω id clock session).1
    b.AnchoredAt p first second ∧
      ((∃ n, b.AnchoredAt p n n) ↔
        first = second ∨ ∀ d, p.timedBy? = some d →
          offset first d = Int64.maxValue ∧ offset second d = Int64.maxValue) := by
  intro first second b
  have anchored : b.AnchoredAt p first second := toBuilder_anchoredAt p id clock session
  refine ⟨anchored, ?_⟩
  calc (∃ n, b.AnchoredAt p n n)
      ↔ NetworkWindows.sealedAt first p.network p.unmetered =
          NetworkWindows.sealedAt second p.network p.unmetered := by
        constructor
        · rintro ⟨n, single⟩
          -- the creation tells the reading
          obtain rfl : first = n := Option.some.inj (anchored.createdAt.symm.trans single.createdAt)
          exact single.windows_eq anchored
        · intro same
          exact ⟨first, { anchored with
            networkUntil := by rw [anchored.networkUntil, same]
            unmeteredUntil := by rw [anchored.unmeteredUntil, same] }⟩
    _ ↔ ∀ d, p.timedBy? = some d → first = second ∨
          offset first d = Int64.maxValue ∧ offset second d = Int64.maxValue := by
        simp only [NetworkWindows.sealedAt_eq_sealedAt_iff, offset_eq_offset_iff]
    _ ↔ first = second ∨ ∀ d, p.timedBy? = some d →
          offset first d = Int64.maxValue ∧ offset second d = Int64.maxValue := by
        by_cases same : first = second <;> simp [same]

/-- The clock moves by 5 ns between its two readings, so that a job which is created at 1000 ns is
told to wait for an unmetered network for 1 ms and 5 ns. -/
theorem windows_anchored_later :
    let readings : Readings := fun n => if n = 0 then 1000 else 1005
    let p : Params := { unmetered := .ofMillis 1 }
    let b := (p.toBuilder ScriptedWork "sync" readings ⟨1⟩).1
    (∀ m n, m ≤ n → readings m ≤ readings n) ∧
      b.createdAt = some 1000 ∧ b.unmeteredUntil = some (.upTo 1001005) ∧
      ¬∃ n, b.AnchoredAt p n n := by
  intro readings p b
  refine ⟨fun m n le => ?_, by decide, by decide, ?_⟩
  · dsimp only [readings]
    split
    · split <;> decide
    · rw [if_neg (by omega)]
      exact Int64.le_refl _
  · rintro ⟨n, single⟩
    obtain rfl : n = 1000 := Option.some.inj single.createdAt.symm
    exact absurd single.unmeteredUntil (by decide)

end Params

end DeferredJobs
