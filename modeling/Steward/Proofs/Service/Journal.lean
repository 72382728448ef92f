import Steward.Proofs.Service.Operations
import Steward.Proofs.Session.Journal

/-!
# The calls of a controller

Every request that a controller makes of its supervisor is recorded, with what
it was made with and what came back.  The recorded controller has the same
results and leaves the same behind.
-/

namespace Steward

variable {α β ε : Type}

/-- A call of a supervisor and its answer. -/
inductive SupervisorCall
  /-- A descriptor is loaded. -/
  | register (name : ServiceName) (descriptor : Path) (answer : Except ToolError Unit)
  /-- A service is unloaded. -/
  | deregister (name : ServiceName) (answer : Except ToolError Bool)
  /-- A start is asked for. -/
  | start (name : ServiceName) (answer : Except ToolError Unit)
  /-- A stop is asked for. -/
  | stop (name : ServiceName) (answer : Except ToolError Unit)
  /-- What is known is asked for. -/
  | query (name : ServiceName) (answer : Except ToolError Liveness)

/-- The supervisor whose requests are recorded. -/
def Supervisor.recorded (supervisor : Supervisor α) :
    Supervisor (α × Journal SupervisorCall) where
  dialect := supervisor.dialect
  descriptorPath := supervisor.descriptorPath
  register name descriptor :=
    Exchange.recorded (.register name descriptor) (supervisor.register name descriptor)
  deregister name := Exchange.recorded (.deregister name) (supervisor.deregister name)
  start name := Exchange.recorded (.start name) (supervisor.start name)
  stop name := Exchange.recorded (.stop name) (supervisor.stop name)
  query name := Exchange.recorded (.query name) (supervisor.query name)

namespace Controller

/-- The controller whose requests are recorded. -/
def recorded (controller : Controller α) : Controller (α × Journal SupervisorCall) where
  supervisor := controller.supervisor.recorded
  name := controller.name
  timings := controller.timings

/-! ## Recording changes nothing else -/

variable (controller : Controller α)

theorem checkToken_refines (operation : String) :
    Act.Refines World.unrecorded (controller.recorded.checkToken operation)
      (controller.checkToken operation) :=
  .bind .isCancelled fun _ => .ite (.throw _) (.pure _)

theorem checkRequest_refines (request : InstallRequest) :
    Act.Refines World.unrecorded (controller.recorded.checkRequest request)
      (controller.checkRequest request) :=
  .ite (.throw _) (.pure _)

theorem query_refines :
    Act.Refines World.unrecorded
      (Act.attempt (controller.recorded.supervisor.query controller.name) : Act _ ε _)
      (Act.attempt (controller.supervisor.query controller.name)) :=
  .attempt (Exchange.recorded_refines _ _)

theorem report_refines :
    Act.Refines World.unrecorded (controller.recorded.report (ε := ε)) controller.report :=
  .bind .files fun _ => .bind controller.query_refines fun _ => .pure _

theorem status_refines :
    Act.Refines World.unrecorded (controller.recorded.status (ε := ε)) controller.status :=
  .bind controller.report_refines fun _ => .pure _

theorem probe_refines (wanted : Liveness → Option β) (attempt : UInt32) :
    Exchange.Refines World.unrecorded (controller.recorded.probe wanted attempt)
      (controller.probe wanted attempt) := by
  apply Exchange.Refines.bind (Exchange.recorded_refines _ _)
  intro answer
  cases answer with
  | ok liveness => exact .pure _
  | error failure => exact .pure _

theorem awaitRunning_refines :
    Act.Refines World.unrecorded controller.recorded.awaitRunning controller.awaitRunning := by
  apply Act.Refines.bind (.poll (controller.probe_refines runningPid) _ _)
  intro outcome
  cases outcome with
  | ready pid => exact .pure _
  | timedOut attempts elapsed => exact .throw _
  | cancelled attempts => exact .throw _

theorem awaitStopped_refines :
    Act.Refines World.unrecorded controller.recorded.awaitStopped controller.awaitStopped := by
  apply Act.Refines.bind (.poll (controller.probe_refines stopped) _ _)
  intro outcome
  cases outcome with
  | ready _ => exact .pure _
  | timedOut attempts elapsed => exact .throw _
  | cancelled attempts => exact .throw _

theorem preview_refines (request : InstallRequest) :
    Act.Refines World.unrecorded (controller.recorded.preview request)
      (controller.preview request) :=
  .bind (controller.checkRequest_refines request) fun _ => .bind (.onFiles _) fun _ => .pure _

theorem register_refines :
    Act.Refines World.unrecorded controller.recorded.register controller.register :=
  .attempt (Exchange.recorded_refines _ _)

theorem install_refines (request : InstallRequest) :
    Act.Refines World.unrecorded (controller.recorded.install request)
      (controller.install request) := by
  apply Act.Refines.bind (controller.checkRequest_refines request)
  intro _
  apply Act.Refines.bind .files
  intro files
  apply Act.Refines.ite (.throw _)
  apply Act.Refines.bind (.onFiles _)
  intro descriptor
  apply Act.Refines.bind (.onFiles _)
  intro _
  apply Act.Refines.bind controller.register_refines
  intro answer
  cases answer with
  | ok _ => exact .pure _
  | error cause => exact .bind (.onFiles _) fun _ => .throw _

/-- The second half of a launch: the start itself. -/
theorem start_refines_of_loaded :
    Act.Refines World.unrecorded
      (Act.attempt (controller.recorded.supervisor.start controller.name) >>= fun answer =>
        match answer with
        | .ok () => controller.recorded.awaitRunning
        | .error cause => throw (controller.recorded.refused "start" cause))
      (Act.attempt (controller.supervisor.start controller.name) >>= fun answer =>
        match answer with
        | .ok () => controller.awaitRunning
        | .error cause => throw (controller.refused "start" cause)) := by
  apply Act.Refines.bind (.attempt (Exchange.recorded_refines _ _))
  intro answer
  cases answer with
  | ok _ => exact controller.awaitRunning_refines
  | error cause => exact .throw _

theorem launch_refines (known : Except ToolError Liveness) :
    Act.Refines World.unrecorded (controller.recorded.launch known) (controller.launch known) := by
  have started := controller.start_refines_of_loaded
  match known with
  | .ok .notLoaded =>
      apply Act.Refines.bind controller.register_refines
      intro answer
      cases answer with
      | ok _ => exact started
      | error cause => exact .throw _
  | .ok .loaded => exact started
  | .ok (.running _) => exact started
  | .error _ => exact started

theorem start_refines :
    Act.Refines World.unrecorded controller.recorded.start controller.start := by
  apply Act.Refines.bind (controller.checkToken_refines _)
  intro _
  apply Act.Refines.bind .files
  intro files
  apply Act.Refines.ite (.throw _)
  apply Act.Refines.bind controller.query_refines
  intro answer
  match answer with
  | .ok (.running _) => exact .pure _
  | .ok .loaded => exact controller.launch_refines _
  | .ok .notLoaded => exact controller.launch_refines _
  | .error _ => exact controller.launch_refines _

theorem halt_refines :
    Act.Refines World.unrecorded controller.recorded.halt controller.halt := by
  apply Act.Refines.bind (.attempt (Exchange.recorded_refines _ _))
  intro answer
  cases answer with
  | ok _ => exact controller.awaitStopped_refines
  | error cause => exact .throw _

theorem stop_refines :
    Act.Refines World.unrecorded controller.recorded.stop controller.stop := by
  apply Act.Refines.bind (controller.checkToken_refines _)
  intro _
  apply Act.Refines.bind controller.query_refines
  intro answer
  cases answer with
  | error cause => exact .throw _
  | ok liveness => exact .ite controller.halt_refines (.pure _)

theorem restart_refines :
    Act.Refines World.unrecorded controller.recorded.restart controller.restart :=
  .bind controller.stop_refines fun _ => .bind (.pause _ _) fun _ =>
    .ite (.throw _) (.bind controller.start_refines fun _ => .pure _)

theorem tryStop_refines :
    Act.Refines World.unrecorded controller.recorded.tryStop controller.tryStop := by
  apply Act.Refines.bind (.outcome controller.stop_refines)
  intro result
  cases result with
  | ok _ => exact .pure _
  | error failure => exact .ite (.throw _) (.pure _)

theorem unload_refines :
    Act.Refines World.unrecorded controller.recorded.unload controller.unload :=
  .bind (.attempt (Exchange.recorded_refines _ _)) fun _ => .bind (.onFiles _) fun _ => .pure _

theorem uninstall_refines :
    Act.Refines World.unrecorded controller.recorded.uninstall controller.uninstall := by
  apply Act.Refines.bind controller.status_refines
  intro state
  apply Act.Refines.bind .files
  intro files
  apply Act.Refines.ite (.pure _)
  exact .ite (.bind controller.tryStop_refines fun _ => controller.unload_refines)
    controller.unload_refines

theorem execute_refines (command : Command) :
    Act.Refines World.unrecorded (controller.recorded.execute command)
      (controller.execute command) := by
  cases command with
  | install request => exact .bind (controller.install_refines request) fun _ => .pure _
  | uninstall => exact .bind controller.uninstall_refines fun _ => .pure _
  | start => exact .bind controller.start_refines fun _ => .pure _
  | stop => exact .bind controller.stop_refines fun _ => .pure _
  | restart => exact .bind controller.restart_refines fun _ => .pure _

/-- A recorded operation has the same result and leaves the same behind. -/
theorem perform_refines (operation : Operation) :
    Act.Refines World.unrecorded (controller.recorded.perform operation)
      (controller.perform operation) := by
  cases operation with
  | command command => exact .bind (controller.execute_refines command) fun _ => .pure _
  | status => exact .bind controller.status_refines fun _ => .pure _
  | report => exact .bind controller.report_refines fun _ => .pure _
  | preview request => exact .bind (controller.preview_refines request) fun _ => .pure _

/-- Recorded operations leave the same behind. -/
theorem performAll_through (operations : List Operation)
    (session : Session (World (α × Journal SupervisorCall))) :
    controller.performAll operations (session.through World.unrecorded) =
      (controller.recorded.performAll operations session).through World.unrecorded := by
  induction operations generalizing session with
  | nil => rfl
  | cons operation rest inductionHypothesis =>
    have first := controller.perform_refines operation session
    rw [performAll, List.foldl_cons, first]
    exact inductionHypothesis _

end Controller

end Steward
