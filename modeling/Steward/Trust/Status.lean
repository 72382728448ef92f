import Steward.Text.Blank

/-!
# Statuses of submissions

The authority names the status of a submission by a word of its own.  Only
the words for acceptance and refusal are final; a word that is not known means
that the submission is still pending.
-/

namespace Steward

/-- What the authority calls a submission. -/
structure TrackingId where
  text : String
  deriving DecidableEq, Repr

/-- One reading of the status of a submission. -/
inductive Status
  | success
  /-- Refused, in the word that the authority used. -/
  | invalid (token : String)
  | inProgress
  /-- A word that is not known. -/
  | other (token : String)
  deriving DecidableEq, Repr

namespace Status

/-- The status that a word stands for, whatever its case and the blanks around it. -/
def read (token : String) : Status :=
  let trimmed := Text.trim token
  let lowered := Text.lowered trimmed
  if lowered = "success" || lowered = "accepted" then .success
  else if lowered = "invalid" || lowered = "rejected" then .invalid trimmed
  else if lowered = "in progress" || lowered = "in_progress" || lowered = "inprogress" then
    .inProgress
  else .other trimmed

/-- Whether no later reading can differ. -/
def isTerminal : Status → Bool
  | success | invalid _ => true
  | inProgress | other _ => false

def text : Status → String
  | success => "success"
  | invalid token => token
  | inProgress => "in progress"
  | other token => token

end Status

end Steward
