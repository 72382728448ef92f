import Steward.Files.Error
import Steward.Text.Blank

/-!
# Failures of tools

An external tool fails to start, or it runs and ends without success.  The
diagnostic is what the tool or the system said, unchanged.
-/

namespace Steward

/-- Why the run of a tool failed. -/
inductive ToolError
  /-- The tool could not be started. -/
  | spawn (program : String) (cause : IoError)
  /-- The tool ended without success: its arguments with secrets masked, its exit status unless a
  signal ended it, and what it printed. -/
  | failed (program : String) (arguments : List String) (status : Option Int) (diagnostic : String)
  deriving DecidableEq, Repr

namespace ToolError

/-- How a tool ended. -/
def statusText : Option Int → String
  | some code => "status " ++ toString code
  | none => "signal"

/-- What the tool or the system said about the failure. -/
def diagnostic : ToolError → String
  | spawn _ cause => cause.message
  | failed _ _ _ text => text

/-- The exit status of a tool that ran and was not ended by a signal. -/
def exitCode : ToolError → Option Int
  | spawn .. => none
  | failed _ _ status _ => status

def message : ToolError → String
  | spawn program cause => "failed to run " ++ program ++ ": " ++ cause.message
  | failed program arguments status text =>
    program ++ " " ++ String.intercalate " " arguments ++ " exited with " ++ statusText status ++
      ": " ++ text

/-- The failures below this one, outermost first. -/
def causes : ToolError → List String
  | spawn _ cause => [cause.message]
  | failed .. => []

/-- Whether a tool ended with one of the given statuses, or its output mentions one of the given
phrases in any case.  A tool that did not start matches nothing. -/
def hints (statuses : List Int) (phrases : List String) : ToolError → Bool
  | spawn .. => false
  | failed _ _ status text =>
    status.any statuses.contains || phrases.any (Text.mentions (Text.lowered text))

end ToolError

end Steward
