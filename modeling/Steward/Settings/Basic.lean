import Steward.Service.Descriptor
import Steward.Service.Timings
import Steward.Trust.Submission
import Steward.Trust.Tools

/-!
# Settings

What the user can set: the service, the waits of its lifecycle, and the
signing and notarization of its binary.  Every setting has a standard value.
-/

namespace Steward

/-- The settings of the service. -/
structure ServiceSection where
  name : ServiceName
  executable : Path
  config : Option Path
  workingDirectory : Option Path
  logDirectory : Option Path
  user : Option String
  runAtLoad : Bool
  keepAlive : Bool
  throttleSeconds : UInt64
  deriving DecidableEq, Repr

/-- The waits of the lifecycle, in seconds. -/
structure LifecycleSection where
  /-- The pause between two queries. -/
  pollSeconds : UInt64
  startSeconds : UInt64
  stopSeconds : UInt64
  settleSeconds : UInt64
  deriving DecidableEq, Repr

/-- The settings for signing and notarization. -/
structure TrustSection where
  identity : String
  /-- The bundle that the authority knows the binary by. -/
  bundleId : String
  account : Option String
  team : Option String
  password : Option String
  profile : Option String
  entitlements : Option Path
  /-- The client of the authority. -/
  notaryTool : NotaryTool
  pollSeconds : UInt64
  /-- How long a verdict may take, in seconds. -/
  timeoutSeconds : UInt64
  deriving DecidableEq, Repr

/-- Everything the user can set. -/
structure Settings where
  service : ServiceSection
  lifecycle : LifecycleSection
  trust : TrustSection
  deriving DecidableEq, Repr

/-! ## Standard values -/

/-- The service as it is when nothing is set. -/
def ServiceSection.standard : ServiceSection where
  name := ServiceName.standard
  executable := ⟨"/usr/local/bin/bridge"⟩
  config := none
  workingDirectory := none
  logDirectory := none
  user := none
  runAtLoad := RestartPolicy.standard.runAtLoad
  keepAlive := RestartPolicy.standard.keepAlive
  throttleSeconds := RestartPolicy.standard.throttleSeconds

/-- The waits when nothing is set. -/
def LifecycleSection.standard : LifecycleSection := ⟨1, 30, 30, 2⟩

/-- Signing and notarization when nothing is set. -/
def TrustSection.standard : TrustSection where
  identity := ""
  bundleId := ""
  account := none
  team := none
  password := none
  profile := none
  entitlements := none
  notaryTool := .notarytool
  pollSeconds := 30
  timeoutSeconds := 1800

def Settings.standard : Settings where
  service := ServiceSection.standard
  lifecycle := LifecycleSection.standard
  trust := TrustSection.standard

/-! ## What the settings mean -/

/-- The pause between two queries.  It is a second at least, for without a pause the tools would
be kept busy. -/
def pollInterval (seconds : UInt64) : Nat :=
  Nanos.ofSeconds (max seconds.toNat 1)

/-- When the service is started without being asked. -/
def ServiceSection.restart (given : ServiceSection) : RestartPolicy :=
  ⟨given.runAtLoad, given.keepAlive, given.throttleSeconds⟩

def LifecycleSection.timings (given : LifecycleSection) : LifecycleTimings where
  pollInterval := pollInterval given.pollSeconds
  startTimeout := Nanos.ofSeconds given.startSeconds.toNat
  stopTimeout := Nanos.ofSeconds given.stopSeconds.toNat
  restartSettle := Nanos.ofSeconds given.settleSeconds.toNat

def TrustSection.timings (given : TrustSection) : NotarizationTimings where
  pollInterval := pollInterval given.pollSeconds
  timeout := Nanos.ofSeconds given.timeoutSeconds.toNat

end Steward
