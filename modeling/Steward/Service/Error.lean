import Steward.Files.Path
import Steward.Session.Span
import Steward.Tool.Error

/-!
# Failures of service operations
-/

namespace Steward

/-- Why an operation on a service failed. -/
inductive ServiceError
  /-- The system refused something at a path. -/
  | io (path : Path) (cause : IoError)
  /-- There is a descriptor already, so nothing is left to do. -/
  | alreadyInstalled (service : String) (path : Path)
  /-- There is no descriptor. -/
  | notInstalled (service : String) (path : Path)
  /-- What was asked for cannot be described. -/
  | invalidDescriptor (detail : String)
  /-- A command of the supervisor failed in the named operation. -/
  | supervisor (operation service : String) (cause : ToolError)
  /-- No live process was listed in time. -/
  | startTimeout (service : String) (waited : Nat)
  /-- A live process was still listed after the time. -/
  | stopTimeout (service : String) (waited : Nat)
  | cancelled (operation service : String)
  /-- There is no supervisor to talk to. -/
  | unsupported (detail : String)
  /-- The program stopped for good: a pause would have ended later than the clock can tell.  No
  operation goes on after this one. -/
  | crashed
  deriving DecidableEq, Repr

namespace ServiceError

/-- Whether the service is just as it was asked to be in spite of the failure. -/
def isNoop : ServiceError → Bool
  | alreadyInstalled .. => true
  | _ => false

def message : ServiceError → String
  | io path cause => "I/O error at " ++ path.text ++ ": " ++ cause.message
  | alreadyInstalled service path =>
    "service '" ++ service ++ "' is already installed (" ++ path.text ++ ")"
  | notInstalled service path =>
    "service '" ++ service ++ "' is not installed (no descriptor at " ++ path.text ++ ")"
  | invalidDescriptor detail => "invalid service descriptor: " ++ detail
  | supervisor operation service cause =>
    operation ++ " failed for service '" ++ service ++ "': " ++ cause.message
  | startTimeout service waited =>
    "service '" ++ service ++ "' did not report running within " ++ Nanos.text waited
  | stopTimeout service waited =>
    "service '" ++ service ++ "' was still running after " ++ Nanos.text waited
  | cancelled operation service => operation ++ " of service '" ++ service ++ "' was cancelled"
  | unsupported detail => "service supervision is not supported on this platform: " ++ detail
  | crashed => "overflow when adding duration to instant"

/-- The failures below this one, outermost first. -/
def causes : ServiceError → List String
  | io _ cause => [cause.message]
  | supervisor _ _ cause => cause.message :: cause.causes
  | _ => []

end ServiceError

end Steward
