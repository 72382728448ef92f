import Steward.Files.Path
import Steward.Session.Span
import Steward.Tool.Error
import Steward.Trust.Status

/-!
# Failures of the trust pipeline
-/

namespace Steward

/-- The steps of the pipeline. -/
inductive Stage
  | sign
  | verify
  | package
  | submit
  /-- Wait for the verdict. -/
  | poll
  | staple
  deriving DecidableEq, Repr

namespace Stage

def all : List Stage := [sign, verify, package, submit, poll, staple]

/-- A step in one word, for programs. -/
def tag : Stage → String
  | sign => "sign"
  | verify => "verify"
  | package => "package"
  | submit => "submit"
  | poll => "poll"
  | staple => "staple"

/-- A step in words. -/
def text : Stage → String
  | poll => "poll verdict"
  | stage => stage.tag

end Stage

/-- Why a step of the pipeline failed. -/
inductive TrustError
  /-- Something is missing in the settings. -/
  | configuration (detail : String)
  | notFound (path : Path)
  /-- The system refused something at a path. -/
  | io (path : Path) (cause : IoError)
  | gateway (stage : Stage) (cause : ToolError)
  /-- A tool succeeded, and what it said cannot be understood. -/
  | protocol (stage : Stage) (detail : String)
  | timeout (trackingId : TrackingId) (waited : Nat)
  | rejected (trackingId : TrackingId) (status : String)
  /-- There is no verdict yet. -/
  | notApproved (trackingId : TrackingId) (status : String)
  /-- Signing succeeded, and the signature does not hold. -/
  | inconsistentState (path : Path) (diagnostic : String)
  | cancelled (stage : Stage)
  /-- A step was asked for out of order. -/
  | stageOrder (source target : String)
  deriving DecidableEq, Repr

namespace TrustError

def message : TrustError → String
  | configuration detail => "trust configuration error: " ++ detail
  | notFound path => "binary not found: " ++ path.text
  | io path cause => "I/O error at " ++ path.text ++ ": " ++ cause.message
  | gateway stage cause => stage.text ++ " failed: " ++ cause.message
  | protocol stage detail => stage.text ++ " returned an unexpected response: " ++ detail
  | timeout trackingId waited =>
    "no verdict for submission " ++ trackingId.text ++ " within " ++ Nanos.text waited
  | rejected trackingId status =>
    "submission " ++ trackingId.text ++ " was rejected (status: " ++ status ++ ")"
  | notApproved trackingId status =>
    "submission " ++ trackingId.text ++ " is not approved yet (status: " ++ status ++ ")"
  | inconsistentState path diagnostic =>
    "signature on " ++ path.text ++ " does not verify after signing: " ++ diagnostic
  | cancelled stage => stage.text ++ " was cancelled"
  | stageOrder source target => "cannot move artifact from " ++ source ++ " to " ++ target

/-- The failures below this one, outermost first. -/
def causes : TrustError → List String
  | io _ cause => [cause.message]
  | gateway _ cause => cause.message :: cause.causes
  | _ => []

end TrustError

end Steward
