import Steward.Service.Descriptor
import Steward.Service.State
import Steward.Tool.Toolbox

/-!
# Supervisors

A supervisor keeps services running.  It is known here only by the requests
it answers: starting and stopping are asked for, and whether they have
happened is learnt from later queries.
-/

namespace Steward

/-- The requests a supervisor answers. -/
structure Supervisor (α : Type) where
  /-- The dialect in which it reads descriptors. -/
  dialect : Dialect
  /-- The file in which it looks for the descriptor of a service. -/
  descriptorPath : ServiceName → Path
  /-- Loads the descriptor in a file. -/
  register : ServiceName → Path → Call (World α) ToolError Unit
  /-- Unloads a service; the answer is whether it was loaded. -/
  deregister : ServiceName → Call (World α) ToolError Bool
  start : ServiceName → Call (World α) ToolError Unit
  stop : ServiceName → Call (World α) ToolError Unit
  /-- Says what is known of a service. -/
  query : ServiceName → Call (World α) ToolError Liveness

/-- Runs a request and takes a failure that `expected` recognises as the given answer. -/
def Call.recover (request : Call ω ToolError β) (expected : ToolError → Bool) (answer : β) :
    Call ω ToolError β :=
  ExceptT.mk do
    match ← request.run with
    | .ok value => return .ok value
    | .error failure => return if expected failure then .ok answer else .error failure

end Steward
