import Steward.Settings.Basic
import Steward.Yaml.Emit

/-!
# Writing settings

Settings are written section by section, every value that is set under its
name.
-/

namespace Steward.Settings

open Yaml.Emit

def textField (name text : String) : Field := (name, some (.text text))

/-- A field with a text that may be absent. -/
def optionalField (name : String) (text : Option String) : Field := (name, text.map Value.text)

def truthField (name : String) (value : Bool) : Field := (name, some (.truth value))

def numberField (name : String) (n : UInt64) : Field := (name, some (.number n.toNat))

def serviceFields (given : ServiceSection) : List Field := [
  textField "name" given.name.text,
  textField "executable" given.executable.text,
  optionalField "config" (given.config.map Path.text),
  optionalField "working_dir" (given.workingDirectory.map Path.text),
  optionalField "log_dir" (given.logDirectory.map Path.text),
  optionalField "user" given.user,
  truthField "run_at_load" given.runAtLoad,
  truthField "keep_alive" given.keepAlive,
  numberField "throttle_interval_secs" given.throttleSeconds]

def lifecycleFields (given : LifecycleSection) : List Field := [
  numberField "poll_interval_secs" given.pollSeconds,
  numberField "start_timeout_secs" given.startSeconds,
  numberField "stop_timeout_secs" given.stopSeconds,
  numberField "restart_settle_secs" given.settleSeconds]

def trustFields (given : TrustSection) : List Field := [
  textField "identity" given.identity,
  textField "bundle_id" given.bundleId,
  optionalField "apple_id" given.account,
  optionalField "team_id" given.team,
  optionalField "password" given.password,
  optionalField "keychain_profile" given.profile,
  optionalField "entitlements" (given.entitlements.map Path.text),
  textField "notary_tool" given.notaryTool.name,
  numberField "poll_interval_secs" given.pollSeconds,
  numberField "timeout_secs" given.timeoutSeconds]

def render (settings : Settings) : String :=
  String.ofList
    (mappingSection "service" (serviceFields settings.service) ++
      mappingSection "lifecycle" (lifecycleFields settings.lifecycle) ++
      mappingSection "trust" (trustFields settings.trust))

end Steward.Settings
