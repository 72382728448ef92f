import Steward.Files.Path
import Steward.Service.Name

/-!
# Service descriptors

A descriptor says what a supervisor has to run and how.  The two supervisors
read it in different dialects.
-/

namespace Steward

/-- The language in which a supervisor reads descriptors. -/
inductive Dialect
  | launchd
  | systemd
  deriving DecidableEq, Repr

/-- When a supervisor starts a service by itself. -/
structure RestartPolicy where
  /-- Start it when the supervisor loads it. -/
  runAtLoad : Bool
  /-- Start it again after it failed. -/
  keepAlive : Bool
  /-- The least number of seconds between two starts. -/
  throttleSeconds : UInt64
  deriving DecidableEq, Repr

/-- Start at once, keep alive, at most every ten seconds. -/
def RestartPolicy.standard : RestartPolicy := ⟨true, true, 10⟩

/-- What a supervisor has to run. -/
structure Descriptor where
  name : ServiceName
  executable : Path
  /-- The command line, the program itself first. -/
  arguments : List String
  workingDirectory : Path
  /-- The file that standard output is added to. -/
  stdoutPath : Path
  /-- The file that standard error is added to. -/
  stderrPath : Path
  restart : RestartPolicy
  /-- The user to run as, if not the caller. -/
  user : Option String
  deriving DecidableEq, Repr

end Steward
