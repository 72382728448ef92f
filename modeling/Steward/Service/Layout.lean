import Steward.Files.Path
import Steward.Service.Name

/-!
# Where things are

The fixed places of logs and descriptors below a home directory.
-/

namespace Steward.Layout

/-- The directory of everything that belongs to the bridge itself. -/
def root (home : Path) : Path := home.join ".bridge"

/-- The directory of the logs when no other is configured. -/
def logs (home : Path) : Path := (root home).join "logs"

/-- The file for standard output in a directory of logs. -/
def stdoutLog (logs : Path) : Path := logs.join "bridge.log"

/-- The file for standard error in a directory of logs. -/
def stderrLog (logs : Path) : Path := logs.join "bridge-err.log"

/-- The directory in which launchd looks for the descriptors of a user. -/
def launchAgents (home : Path) : Path := (home.join "Library").join "LaunchAgents"

/-- The launchd descriptor of a service. -/
def plist (home : Path) (name : ServiceName) : Path :=
  (launchAgents home).join (name.text ++ ".plist")

/-- The directory in which systemd looks for the descriptors of a user. -/
def systemdUser (home : Path) : Path :=
  ((home.join ".config").join "systemd").join "user"

/-- The systemd descriptor of a service. -/
def unit (home : Path) (name : ServiceName) : Path :=
  (systemdUser home).join (name.text ++ ".service")

end Steward.Layout
