import Steward.Session.Poll

/-!
# Timings of the lifecycle
-/

namespace Steward

/-- How long the operations on a service wait. -/
structure LifecycleTimings where
  /-- The pause between two queries. -/
  pollInterval : Nat
  startTimeout : Nat
  stopTimeout : Nat
  /-- The pause between the stop and the start of a restart. -/
  restartSettle : Nat
  deriving DecidableEq, Repr

namespace LifecycleTimings

/-- Every second for half a minute, with two seconds to settle. -/
def standard : LifecycleTimings :=
  ⟨Nanos.ofSeconds 1, Nanos.ofSeconds 30, Nanos.ofSeconds 30, Nanos.ofSeconds 2⟩

def startSchedule (timings : LifecycleTimings) : Schedule :=
  ⟨timings.pollInterval, timings.startTimeout⟩

def stopSchedule (timings : LifecycleTimings) : Schedule :=
  ⟨timings.pollInterval, timings.stopTimeout⟩

end LifecycleTimings

end Steward
