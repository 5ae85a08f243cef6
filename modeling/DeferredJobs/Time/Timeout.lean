import DeferredJobs.Time.Bound

/-!
# Timeouts

A `Timeout` says how long a condition lasts relative to a moment that is not yet known. Sealing
it at a clock reading makes it a `TimeBound`. A pair of network timeouts is sealed together,
because a job that needs an unmetered network needs a network at least as long.
-/

namespace DeferredJobs

/-- How long a condition lasts, counted from the moment it is sealed. -/
inductive Timeout where
  | never
  | forever
  | after (d : Duration)
deriving DecidableEq, Inhabited

namespace Timeout

/-- A timeout of `ms` milliseconds. -/
def ofMillis (ms : UInt64) : Timeout := after (.ofMillis ms)

/-- The bound that the timeout sets when it starts at `now`. -/
def sealedAt (now : Nanos) : Timeout → TimeBound
  | never => .never
  | forever => .forever
  | after d => .upTo (offset now d)

/-- What is left of a timeout once its duration is stored in whole milliseconds. -/
def truncated : Timeout → Timeout
  | after d => after d.truncated
  | t => t

end Timeout

/-- Until when a job requires a network, and until when an unmetered one. -/
structure NetworkWindows where
  network : TimeBound
  unmetered : TimeBound
deriving DecidableEq

namespace NetworkWindows

/-- The network window reaches at least as far as the unmetered one. -/
def covering (w : NetworkWindows) : NetworkWindows :=
  { w with network := max w.network w.unmetered }

/-- A job that needs an unmetered network needs a network at least as long. -/
def Covers (w : NetworkWindows) : Prop := w.unmetered ≤ w.network

theorem covers_covering (w : NetworkWindows) : w.covering.Covers := Std.right_le_max

theorem covering_eq_self {w : NetworkWindows} (h : w.Covers) : w.covering = w := by
  rw [covering, Std.LawfulOrderLeftLeaningMax.max_eq_left _ _ h]

/-- Both timeouts sealed at `now`, the network window raised to cover the unmetered one. -/
def sealedAt (now : Nanos) (network unmetered : Timeout) : NetworkWindows :=
  covering ⟨network.sealedAt now, unmetered.sealedAt now⟩

theorem covers_sealedAt (now : Nanos) (network unmetered : Timeout) :
    (sealedAt now network unmetered).Covers := covers_covering _

end NetworkWindows

end DeferredJobs
