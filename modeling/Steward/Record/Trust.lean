import Steward.Record.Service
import Steward.Trust.Artifact
import Steward.Trust.Gateway
import Steward.Trust.Submission

/-!
# Records of artifacts and submissions
-/

namespace Steward

def Status.record : Status → Json
  | success => .record [("status", "success")]
  | invalid token => .record [("status", "invalid"), ("token", token)]
  | inProgress => .record [("status", "in_progress")]
  | other token => .record [("status", "other"), ("token", token)]

def Credential.record : Credential → Json
  | profile name => .record [("profile", name)]
  | password account secret team =>
    .record [("account", account), ("secret", secret), ("team_id", .ofOption Json.text team)]

def SigningOptions.record (options : SigningOptions) : Json :=
  .record [("hardened_runtime", options.hardenedRuntime), ("timestamp", options.timestamp),
    ("force", options.force), ("entitlements", .ofOption Path.record options.entitlements)]

def ToolOutput.record (output : ToolOutput) : Json :=
  .record [("stdout", output.stdout), ("stderr", output.stderr), ("combined", output.combined)]

def Verdict.fields : Verdict → List (String × Json)
  | success => [("verdict", "success")]
  | rejected status => [("verdict", "rejected"), ("status", status)]
  | unknown status => [("verdict", "unknown"), ("status", status)]

def Marker.record (marker : Marker) : Json :=
  .record (("stage", Json.text marker.label) ::
    match marker with
    | packaged archive => [("archive", archive.record)]
    | submitted trackingId => [("tracking_id", trackingId.text)]
    | verdict given => given.fields
    | _ => [])

def Artifact.record (artifact : Artifact) : Json :=
  .record [("path", artifact.path.record), ("sha256", artifact.sha256),
    ("stages", .list (artifact.history.map Marker.record))]

def Submission.record (submission : Submission) : Json :=
  .record [("tracking_id", submission.trackingId.text), ("polls", .nat submission.polls.toNat),
    ("last_status", .ofOption Status.record submission.lastStatus)]

end Steward
