import Steward.Service.Request
import Steward.Service.Supervisor
import Steward.Service.Timings

/-!
# Controllers

A controller takes one service through its life: not installed, installed,
running, and back.  The supervisor alone knows where the service is; a start
or a stop has happened when a query says so, and never because a command
succeeded.
-/

namespace Steward

/-- What drives one service. -/
structure Controller (α : Type) where
  supervisor : Supervisor α
  name : ServiceName
  timings : LifecycleTimings

/-- What an operation did that succeeded. -/
inductive Transition
  /-- It changed the state of the service. -/
  | completed
  /-- There was nothing to do. -/
  | alreadyInDesiredState
  deriving DecidableEq, Repr

/-- What is known of a service at one moment. -/
structure ServiceReport where
  name : String
  state : ServiceState
  /-- Its process, if one is listed. -/
  pid : Option UInt32
  descriptor : Path
  descriptorPresent : Bool
  deriving DecidableEq, Repr

namespace Controller

def descriptorPath (controller : Controller α) : Path :=
  controller.supervisor.descriptorPath controller.name

/-! ## Failures -/

/-- The failure of an operation that the token stopped. -/
def cancelled (controller : Controller α) (operation : String) : ServiceError :=
  .cancelled operation controller.name.text

/-- The failure of an operation whose command failed. -/
def refused (controller : Controller α) (operation : String) (cause : ToolError) : ServiceError :=
  .supervisor operation controller.name.text cause

/-- Fails if the token has fired. -/
def checkToken (controller : Controller α) (operation : String) :
    Act (World α) ServiceError Unit := do
  if ← Act.isCancelled then throw (controller.cancelled operation)

/-- Fails if a request is for another service. -/
def checkRequest (controller : Controller α) (request : InstallRequest) :
    Act (World α) ServiceError Unit := do
  if request.name ≠ controller.name then
    throw (.invalidDescriptor
      ("descriptor names '" ++ request.name.text ++ "' but controller manages '" ++
        controller.name.text ++ "'"))

/-! ## State -/

/-- The state that a query and the presence of a descriptor tell.  A failed query means that no
supervisor knows the service. -/
def stateOf (answer : Except ToolError Liveness) (descriptorPresent : Bool) : ServiceState :=
  match answer with
  | .ok (.running _) => .running
  | .ok .loaded => .installedStopped
  | .ok .notLoaded => if descriptorPresent then .installedStopped else .notInstalled
  | .error _ => .notInstalled

/-- The process that a query tells. -/
def pidOf : Except ToolError Liveness → Option UInt32
  | .ok (.running pid) => some pid
  | _ => none

/-- What is known of the service, from one query. -/
def report (controller : Controller α) : Act (World α) ε ServiceReport := do
  let present := (← Act.files).doesExist controller.descriptorPath
  let answer ← Act.attempt (controller.supervisor.query controller.name)
  return {
    name := controller.name.text
    state := stateOf answer present
    pid := pidOf answer
    descriptor := controller.descriptorPath
    descriptorPresent := present }

/-- The state of the service, from one query. -/
def status (controller : Controller α) : Act (World α) ε ServiceState := do
  return (← controller.report).state

/-! ## Confirmation -/

/-- A query as a probe: pending until the answer is one that `wanted` gives a value for.  A failed
query is pending too. -/
def probe (controller : Controller α) (wanted : Liveness → Option β) (_attempt : UInt32) :
    Call (World α) ServiceError (Option β) :=
  ExceptT.mk do
    match ← (controller.supervisor.query controller.name).run with
    | .ok liveness => return .ok (wanted liveness)
    | .error _ => return .ok none

/-- A probe is a query and what is made of its answer. -/
theorem probe_eq (controller : Controller α) (wanted : Liveness → Option β) (attempt : UInt32) :
    controller.probe wanted attempt =
      (Except.ok ∘ (·.toOption.bind wanted)) <$>
        (controller.supervisor.query controller.name).run := by
  rw [probe, map_eq_pure_bind]
  congr
  funext answer
  cases answer <;> rfl

/-- The process of a running service. -/
def runningPid : Liveness → Option UInt32
  | .running pid => some pid
  | _ => none

/-- That a service is not running. -/
def stopped (liveness : Liveness) : Option Unit :=
  if liveness.isRunning then none else some ()

/-- Queries until the service runs. -/
def awaitRunning (controller : Controller α) : Act (World α) ServiceError Transition := do
  match ← Act.poll .crashed controller.timings.startSchedule (controller.probe runningPid) with
  | .ready _ => return .completed
  | .timedOut .. => throw (.startTimeout controller.name.text controller.timings.startTimeout)
  | .cancelled _ => throw (controller.cancelled "start")

/-- Queries until the service does not run. -/
def awaitStopped (controller : Controller α) : Act (World α) ServiceError Transition := do
  match ← Act.poll .crashed controller.timings.stopSchedule (controller.probe stopped) with
  | .ready _ => return .completed
  | .timedOut .. => throw (.stopTimeout controller.name.text controller.timings.stopTimeout)
  | .cancelled _ => throw (controller.cancelled "stop")

/-! ## Operations -/

/-- The text of the descriptor that `install` would write. -/
def preview (controller : Controller α) (request : InstallRequest) :
    Act (World α) ServiceError String := do
  controller.checkRequest request
  let descriptor ← Act.onFiles request.build
  return descriptor.render controller.supervisor.dialect

/-- Loads the descriptor into the supervisor. -/
def register (controller : Controller α) : Act (World α) ServiceError (Except ToolError Unit) :=
  Act.attempt (controller.supervisor.register controller.name controller.descriptorPath)

/-- Writes the descriptor and loads it into the supervisor.  A descriptor that is there already is
left alone; one that cannot be loaded is removed again. -/
def install (controller : Controller α) (request : InstallRequest) :
    Act (World α) ServiceError Path := do
  controller.checkRequest request
  let path := controller.descriptorPath
  if (← Act.files).doesExist path then throw (.alreadyInstalled controller.name.text path)
  let descriptor ← Act.onFiles request.build
  Act.onFiles (Descriptor.store path (descriptor.render controller.supervisor.dialect))
  match ← controller.register with
  | .ok () => return path
  | .error cause =>
    Act.onFiles (FileAct.discard path)
    throw (controller.refused "register" cause)

/-- Asks for a start of a service that does not run, loading it first if need be, and waits for
it. -/
def launch (controller : Controller α) (known : Except ToolError Liveness) :
    Act (World α) ServiceError Transition := do
  if let .ok .notLoaded := known then
    match ← controller.register with
    | .ok () => pure ()
    | .error cause => throw (controller.refused "register" cause)
  match ← Act.attempt (controller.supervisor.start controller.name) with
  | .ok () => controller.awaitRunning
  | .error cause => throw (controller.refused "start" cause)

/-- Starts the service and waits until a live process is listed. -/
def start (controller : Controller α) : Act (World α) ServiceError Transition := do
  controller.checkToken "start"
  let path := controller.descriptorPath
  if !(← Act.files).doesExist path then throw (.notInstalled controller.name.text path)
  match ← Act.attempt (controller.supervisor.query controller.name) with
  | .ok (.running _) => return .alreadyInDesiredState
  | known => controller.launch known

/-- Asks for a stop of a running service and waits for it. -/
def halt (controller : Controller α) : Act (World α) ServiceError Transition := do
  match ← Act.attempt (controller.supervisor.stop controller.name) with
  | .ok () => controller.awaitStopped
  | .error cause => throw (controller.refused "stop" cause)

/-- Stops the service and waits until no live process is listed. -/
def stop (controller : Controller α) : Act (World α) ServiceError Transition := do
  controller.checkToken "stop"
  match ← Act.attempt (controller.supervisor.query controller.name) with
  | .error cause => throw (controller.refused "query" cause)
  | .ok liveness => if liveness.isRunning then controller.halt else return .alreadyInDesiredState

/-- Stops the service, lets it settle and starts it.  The first half that fails ends it. -/
def restart (controller : Controller α) : Act (World α) ServiceError Unit := do
  let _ ← controller.stop
  if !(← Act.pause .crashed controller.timings.restartSettle) then
    throw (controller.cancelled "restart")
  let _ ← controller.start

/-- Stops the service if that can be done.  Only a stop that crashes is a failure. -/
def tryStop (controller : Controller α) : Act (World α) ServiceError Unit := do
  match ← Act.outcome controller.stop with
  | .ok _ => return ()
  | .error failure => if failure = .crashed then throw .crashed else return ()

/-- Unloads the service if that can be done, and removes the descriptor. -/
def unload (controller : Controller α) : Act (World α) ServiceError Transition := do
  let path := controller.descriptorPath
  let _ ← Act.attempt (controller.supervisor.deregister controller.name)
  Act.onFiles (ExceptT.adapt (ServiceError.io path) (FileAct.clear path))
  return .completed

/-- Stops and unloads the service as far as that can be done, and removes the descriptor. -/
def uninstall (controller : Controller α) : Act (World α) ServiceError Transition := do
  let path := controller.descriptorPath
  let state ← controller.status
  if state = .notInstalled && !(← Act.files).doesExist path then return .alreadyInDesiredState
  if state = .running then controller.tryStop
  controller.unload

end Controller

end Steward
