import DeferredJobs.Time.Bound

/-!
# Clocks

A `Clock` is anything that gives readings one after the other. A `ManualClock` moves only when
told to; a `MonotonicClock` continues a time line from its origin by the time that has elapsed.
-/

namespace DeferredJobs

/-- A source of readings; taking one may change the source. -/
class Clock (κ : Type) where
  read : κ → Nanos × κ

/-- A clock that moves only when told to. -/
structure ManualClock where
  now : Nanos := 0

namespace ManualClock

instance : Clock ManualClock := ⟨fun c => (c.now, c)⟩

/-- Moves the clock to a reading. -/
def set (_ : ManualClock) (now : Nanos) : ManualClock := ⟨now⟩

/-- Moves the clock forward, to the last instant at most. -/
def advance (c : ManualClock) (d : Duration) : ManualClock := ⟨offset c.now d⟩

end ManualClock

/-- A clock that continues a time line from `origin`. -/
structure MonotonicClock where
  origin : Nanos := 0

/-- The reading after some time has elapsed. -/
def MonotonicClock.reading (c : MonotonicClock) (elapsed : Duration) : Nanos :=
  offset c.origin elapsed

/-- A clock that shows a given sequence of readings. -/
abbrev Readings := Nat → Nanos

instance : Clock Readings := ⟨fun readings => (readings 0, fun n => readings (n + 1))⟩

end DeferredJobs
