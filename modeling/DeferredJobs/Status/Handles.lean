import DeferredJobs.Status

/-!
# Shared status handles

Several holders may share the status of one job through handles. A `Handles` value keeps the
statuses and, for each handle in the order of issue, which of them it shows.

What the holders do is listed as `HandleAction`s, each of which is one step: `Handles.perform?`
carries one out and gives its `HandleReply`.
-/

namespace DeferredJobs

/-- Statuses and the handles that show them. -/
structure Handles where
  statuses : List Status
  /-- For each handle, the position of its status. -/
  shown : List Nat

/-- Something that is done with handles, as one step. A handle is named by its place in the order
of issue. -/
inductive HandleAction where
  | mark (handle : Nat) (m : Mark)
  /-- Reads the flags. -/
  | read (handle : Nat)
  /-- Asks for another handle of the same job. -/
  | share (handle : Nat)
  /-- Asks for a handle of another pending job. -/
  | fresh
deriving DecidableEq

/-- The reply to an action. -/
inductive HandleReply where
  /-- Whether a mark took effect. -/
  | answer (took : Bool)
  | flags (s : Status)
  | issued (handle : Nat)
deriving DecidableEq

namespace Handles

/-- One handle of a pending job. -/
def start : Handles := ⟨[.fresh], [0]⟩

/-- The number of handles issued. -/
def size (hs : Handles) : Nat := hs.shown.length

/-- The status that a handle shows. -/
def get? (hs : Handles) (h : Nat) : Option Status := do
  let i ← hs.shown[h]?
  hs.statuses[i]?

/-- Issues a handle of another pending job. -/
def fresh (hs : Handles) : Handles :=
  ⟨hs.statuses ++ [.fresh], hs.shown ++ [hs.statuses.length]⟩

/-- Issues another handle of the job that `h` belongs to. -/
def share? (hs : Handles) (h : Nat) : Option Handles := do
  let i ← hs.shown[h]?
  return { hs with shown := hs.shown ++ [i] }

/-- Carries out a mark through a handle. -/
def mark? (hs : Handles) (h : Nat) (m : Mark) : Option (Bool × Handles) := do
  let i ← hs.shown[h]?
  let s ← hs.statuses[i]?
  let (answer, s) := s.mark m
  return (answer, { hs with statuses := hs.statuses.set i s })

/-- Carries out an action. It fails only where a handle was never issued. -/
def perform? (hs : Handles) : HandleAction → Option (HandleReply × Handles)
  | .mark h m => do
    let (took, hs) ← hs.mark? h m
    return (.answer took, hs)
  | .read h => do
    let s ← hs.get? h
    return (.flags s, hs)
  | .share h => do
    let shared ← hs.share? h
    return (.issued hs.size, shared)
  | .fresh => some (.issued hs.size, hs.fresh)

/-- What each handle shows, in the order of issue. -/
def toList (hs : Handles) : List Status := hs.shown.filterMap (hs.statuses[·]?)

end Handles

end DeferredJobs
