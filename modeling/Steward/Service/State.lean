/-!
# What is known of a service

A supervisor answers a query with a `Liveness`.  Together with the presence of
a descriptor it gives the `ServiceState` that is shown to the user.
-/

namespace Steward

/-- What a supervisor knows about a service. -/
inductive Liveness
  /-- It is loaded and has a live process. -/
  | running (pid : UInt32)
  /-- It is loaded and has no live process. -/
  | loaded
  /-- There is no record of it. -/
  | notLoaded
  deriving DecidableEq, Repr

def Liveness.isRunning : Liveness → Bool
  | running _ => true
  | loaded | notLoaded => false

/-- The state of a service as its user sees it. -/
inductive ServiceState
  /-- Nothing is known of it. -/
  | notInstalled
  /-- It is installed and has no live process. -/
  | installedStopped
  | running
  deriving DecidableEq, Repr

namespace ServiceState

def all : List ServiceState := [notInstalled, installedStopped, running]

/-- The state in one word, for programs. -/
def tag : ServiceState → String
  | notInstalled => "not_installed"
  | installedStopped => "installed_stopped"
  | running => "running"

/-- The state in words. -/
def text : ServiceState → String
  | notInstalled => "not installed"
  | installedStopped => "installed (stopped)"
  | running => "running"

end ServiceState

end Steward
