import Steward.Record.Json
import Steward.Service.Controller

/-!
# Records of services
-/

namespace Steward

def Path.record (path : Path) : Json := path.text

def Liveness.record (liveness : Liveness) : Json :=
  .record (("is_running", Json.truth liveness.isRunning) ::
    match liveness with
    | running pid => [("state", "running"), ("pid", .nat pid.toNat)]
    | loaded => [("state", "loaded")]
    | notLoaded => [("state", "not_loaded")])

def RestartPolicy.record (policy : RestartPolicy) : Json :=
  .record [("run_at_load", policy.runAtLoad), ("keep_alive", policy.keepAlive),
    ("throttle_interval_secs", .nat policy.throttleSeconds.toNat)]

def Descriptor.record (descriptor : Descriptor) : Json :=
  .record ([("name", Json.text descriptor.name.text), ("executable", descriptor.executable.record),
    ("arguments", .texts descriptor.arguments),
    ("working_dir", descriptor.workingDirectory.record),
    ("stdout_path", descriptor.stdoutPath.record), ("stderr_path", descriptor.stderrPath.record),
    ("restart", descriptor.restart.record)] ++ Json.field? "user" Json.text descriptor.user)

def ServiceReport.record (report : ServiceReport) : Json :=
  .record ([("name", Json.text report.name), ("state", Json.text report.state.tag)] ++
    Json.field? "pid" (fun pid : UInt32 => .nat pid.toNat) report.pid ++
    [("descriptor", report.descriptor.record), ("descriptor_present", report.descriptorPresent)])

def Transition.tag : Transition → String
  | completed => "completed"
  | alreadyInDesiredState => "already_in_desired_state"

def Dialect.tag : Dialect → String
  | launchd => "launchd"
  | systemd => "systemd"

end Steward
