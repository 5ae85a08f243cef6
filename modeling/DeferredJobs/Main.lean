import DeferredJobs.Clock
import DeferredJobs.CommandLine

/-!
# The program

Reads the file that the arguments name and prints the verdicts on its records, or watches them
until it is interrupted.
-/

open DeferredJobs

namespace DeferredJobs.Main

/-- The content of a file, if it can be read. -/
def readFile? (file : String) : IO (Option String) := do
  try
    return some (← IO.FS.readFile file)
  catch _ => return none

/-- Prints what a watch reports at each tick, without end. -/
partial def watchLoop (i : Invocation) (records : List Record) (started : Nat) (seen : Reported) :
    IO Unit := do
  let elapsed := (← IO.monoNanosNow) - started
  let now := (MonotonicClock.mk i.now).reading (.clamp elapsed)
  let (notices, seen) := watchTick records i.connectivity seen now
  for n in notices do
    let v := n.verdict
    IO.println ("verdict changed id=" ++ v.id ++ " now=" ++ toString n.now
      ++ " eligibility=" ++ v.eligibility.text ++ " next_wake=" ++ n.wakeText)
  IO.sleep (UInt32.ofNatClamp i.intervalMillis.toNat)
  watchLoop i records started seen

/-- Carries out an invocation. -/
def run (i : Invocation) : IO UInt32 := do
  match i.load (← readFile? i.file) with
  | .error e =>
    IO.eprintln e.message
    return 1
  | .ok records =>
    IO.print (i.report records)
    if i.command = .watch then
      watchLoop i records (← IO.monoNanosNow) []
    return 0

end DeferredJobs.Main

def main (args : List String) : IO UInt32 :=
  match Invocation.ofArguments args with
  | .error e => do
    IO.eprintln e.message
    return 2
  | .ok i => DeferredJobs.Main.run i
