import Steward.Record.Service
import Steward.Settings.Basic

/-!
# Records of settings

Every value that is set stands under its name.  Spans of time are pairs of
seconds and nanoseconds.
-/

namespace Steward

def ServiceSection.record (given : ServiceSection) : Json :=
  .record ([("name", Json.text given.name.text), ("executable", given.executable.record)] ++
    Json.field? "config" Path.record given.config ++
    Json.field? "working_dir" Path.record given.workingDirectory ++
    Json.field? "log_dir" Path.record given.logDirectory ++
    Json.field? "user" Json.text given.user ++
    [("run_at_load", Json.truth given.runAtLoad), ("keep_alive", given.keepAlive),
      ("throttle_interval_secs", .nat given.throttleSeconds.toNat)])

def LifecycleSection.record (given : LifecycleSection) : Json :=
  .record [("poll_interval_secs", .nat given.pollSeconds.toNat),
    ("start_timeout_secs", .nat given.startSeconds.toNat),
    ("stop_timeout_secs", .nat given.stopSeconds.toNat),
    ("restart_settle_secs", .nat given.settleSeconds.toNat)]

def TrustSection.record (given : TrustSection) : Json :=
  .record ([("identity", Json.text given.identity), ("bundle_id", Json.text given.bundleId)] ++
    Json.field? "apple_id" Json.text given.account ++
    Json.field? "team_id" Json.text given.team ++
    Json.field? "password" Json.text given.password ++
    Json.field? "keychain_profile" Json.text given.profile ++
    Json.field? "entitlements" Path.record given.entitlements ++
    [("notary_tool", Json.text given.notaryTool.name),
      ("poll_interval_secs", .nat given.pollSeconds.toNat),
      ("timeout_secs", .nat given.timeoutSeconds.toNat)])

def Settings.record (settings : Settings) : Json :=
  .record [("service", settings.service.record), ("lifecycle", settings.lifecycle.record),
    ("trust", settings.trust.record)]

def Nanos.record (span : Nat) : Json :=
  .list [.nat (span / perSecond), .nat (span % perSecond)]

def Schedule.record (schedule : Schedule) : Json :=
  .list [Nanos.record schedule.interval, Nanos.record schedule.timeout]

def LifecycleTimings.record (timings : LifecycleTimings) : Json :=
  .record [("poll_interval", Nanos.record timings.pollInterval),
    ("start_timeout", Nanos.record timings.startTimeout),
    ("stop_timeout", Nanos.record timings.stopTimeout),
    ("restart_settle", Nanos.record timings.restartSettle),
    ("start_schedule", timings.startSchedule.record),
    ("stop_schedule", timings.stopSchedule.record)]

def NotarizationTimings.record (timings : NotarizationTimings) : Json :=
  .record [("poll_interval", Nanos.record timings.pollInterval),
    ("timeout", Nanos.record timings.timeout), ("schedule", timings.schedule.record)]

end Steward
