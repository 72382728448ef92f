import Steward.Service.Controller

/-!
# What a controller is asked for

The operations of a controller as data, so that any sequence of them can be
asked for one after another.
-/

namespace Steward

variable {α : Type}

namespace Controller

/-- What may change a service. -/
inductive Command
  /-- Install it. -/
  | install (request : InstallRequest)
  /-- Remove it. -/
  | uninstall
  /-- Start it. -/
  | start
  /-- Stop it. -/
  | stop
  /-- Stop and start it. -/
  | restart

/-- What a command that succeeded comes to. -/
inductive Answer
  /-- The descriptor is at a path. -/
  | installed (descriptor : Path)
  /-- The service is as it was asked to be. -/
  | moved (transition : Transition)
  /-- The service was stopped and started. -/
  | restarted
  deriving DecidableEq, Repr

/-- The draft of the descriptor. -/
def draftPath (controller : Controller α) : Path :=
  controller.descriptorPath.extend ".tmp"

/-- Everything that a controller may be asked for. -/
inductive Operation
  /-- Change the service. -/
  | command (command : Command)
  /-- Tell its state. -/
  | status
  /-- Tell what is known of it. -/
  | report
  /-- Show the descriptor that would be written. -/
  | preview (request : InstallRequest)

/-- Carries out a command. -/
def execute (controller : Controller α) : Command → Act (World α) ServiceError Answer
  | .install request => do return .installed (← controller.install request)
  | .uninstall => do return .moved (← controller.uninstall)
  | .start => do return .moved (← controller.start)
  | .stop => do return .moved (← controller.stop)
  | .restart => do
    controller.restart
    return .restarted

/-- Carries out an operation, whatever it comes to. -/
def perform (controller : Controller α) : Operation → Act (World α) ServiceError Unit
  | .command command => do let _ ← controller.execute command
  | .status => do let _ ← controller.status
  | .report => do let _ ← controller.report
  | .preview request => do let _ ← controller.preview request

/-- The session after operations one after another, each of which may fail. -/
def performAll (controller : Controller α) (operations : List Operation)
    (session : Session (World α)) : Session (World α) :=
  operations.foldl (fun session operation => (controller.perform operation session).2) session

end Controller

/-! ## Installations up to the draft -/

namespace Descriptor

/-- Makes the directory of a descriptor. -/
def makeParent (path : Path) : FileAct ServiceError Unit :=
  match path.parent? with
  | some parent => ExceptT.adapt (ServiceError.io parent) (FileAct.makeDirectories parent)
  | none => pure ()

theorem store_eq (path : Path) (text : String) :
    store path text = makeParent path >>= fun _ =>
      ExceptT.adapt (fun (place, cause) => ServiceError.io place cause)
        (FileAct.replace path (path.extend ".tmp") text) := by
  unfold store makeParent
  cases path.parent? <;> rfl

end Descriptor

/-- What `install` does before it writes the draft of a descriptor. -/
def Controller.prepare (controller : Controller α) (request : InstallRequest) :
    FileAct ServiceError Unit := do
  let _ ← request.build
  Descriptor.makeParent controller.descriptorPath

end Steward
