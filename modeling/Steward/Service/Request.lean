import Steward.Files.Operations
import Steward.Service.Descriptor
import Steward.Service.Error
import Steward.Service.Layout
import Steward.Service.Plist
import Steward.Service.UnitFile

/-!
# From requests to descriptors

A request names what is to be installed; building it resolves every path to
one without symbolic links and makes the directory for the logs.  Rendering a
descriptor is a function of the descriptor and the dialect alone.
-/

namespace Steward

/-- The argument that announces the configuration of the bridge. -/
def configFlag : String := "--config"

/-- What a caller wants installed. -/
structure InstallRequest where
  name : ServiceName
  executable : Path
  /-- The configuration handed to the program; an empty path is none. -/
  config : Option Path
  /-- The directory to start in, by default that of the program. -/
  workingDirectory : Option Path
  logDirectory : Path
  /-- The user to run as; an empty name is none. -/
  user : Option String
  restart : RestartPolicy
  deriving DecidableEq, Repr

namespace InstallRequest

/-- An absolute path without symbolic links and dots.  A path that leads to nothing yet stays as
it is. -/
def resolve (path : Path) (what : String) : FileAct ServiceError Path := do
  if !path.isAbsolute then
    throw (.invalidDescriptor (what ++ " path must be absolute: " ++ path.text))
  match (← get).canonical path with
  | .ok resolved => return resolved
  | .error .notFound => return path
  | .error cause => throw (.io path cause)

def directoryOf (executable : Path) : FileAct ServiceError Path :=
  match executable.parent? with
  | some parent => return parent
  | none =>
    throw (.invalidDescriptor ("executable " ++ executable.text ++ " has no parent directory"))

/-- The arguments that hand over a configuration. -/
def configArguments : Option Path → FileAct ServiceError (List String)
  | none => return []
  | some config => do
    if config.text.isEmpty then return []
    let resolved ← resolve config "config"
    return [configFlag, resolved.text]

/-- The descriptor for a request.  The directory for the logs is made on the way. -/
def build (request : InstallRequest) : FileAct ServiceError Descriptor := do
  if !request.name.isValid then
    throw (.invalidDescriptor
      ("service name '" ++ request.name.text ++ "' is not a valid identifier"))
  let executable ← resolve request.executable "executable"
  let workingDirectory ← match request.workingDirectory with
    | some directory => resolve directory "working directory"
    | none => directoryOf executable
  if !request.logDirectory.isAbsolute then
    throw (.invalidDescriptor ("log directory must be absolute: " ++ request.logDirectory.text))
  ExceptT.adapt (ServiceError.io request.logDirectory)
    (FileAct.makeDirectories request.logDirectory)
  let logs ← resolve request.logDirectory "log directory"
  let configuration ← configArguments request.config
  return {
    name := request.name
    executable := executable
    arguments := executable.text :: configuration
    workingDirectory := workingDirectory
    stdoutPath := Layout.stdoutLog logs
    stderrPath := Layout.stderrLog logs
    restart := request.restart
    user := request.user.filter (fun user => !user.isEmpty) }

end InstallRequest

namespace Descriptor

/-- The text of a descriptor in a dialect. -/
def render (descriptor : Descriptor) : Dialect → String
  | .launchd => Plist.render descriptor
  | .systemd => UnitFile.render descriptor

/-- Writes the text of a descriptor to a file in one move, by way of a draft beside it. -/
def store (path : Path) (text : String) : FileAct ServiceError Unit := do
  match path.parent? with
  | some parent => ExceptT.adapt (ServiceError.io parent) (FileAct.makeDirectories parent)
  | none => pure ()
  ExceptT.adapt (fun (place, cause) => ServiceError.io place cause)
    (FileAct.replace path (path.extend ".tmp") text)

end Descriptor

end Steward
