/-!
# Connectivity

What is known about the network when a job is considered, from no network to an unmetered one.
-/

namespace DeferredJobs

/-- The kind of network that is available. -/
inductive Connectivity where
  | disconnected
  /-- Connected, over a network that may be billed by volume. -/
  | metered
  | unmetered
deriving DecidableEq, Inhabited

namespace Connectivity

/-- Combines two signals. An unmetered network counts even where no network is reported. -/
def ofSignals (network unmetered : Bool) : Connectivity :=
  if unmetered then .unmetered else if network then .metered else .disconnected

/-- Whether any network is available. -/
def hasNetwork (c : Connectivity) : Bool := c != .disconnected

/-- Whether an unmetered network is available. -/
def hasUnmetered (c : Connectivity) : Bool := c == .unmetered

end Connectivity

end DeferredJobs
