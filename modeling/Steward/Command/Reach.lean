import Steward.Command.Run

/-!
# What a command reaches

The paths that a command may look at or change.  Whoever runs it on real files
needs to know no others.
-/

namespace Steward

/-- The paths that belong to a request and its descriptor. -/
def InstallRequest.reach (request : InstallRequest) (home : Path) : List Path :=
  [Layout.unit home request.name, request.executable, request.logDirectory] ++
    request.config.toList ++ request.workingDirectory.toList

/-- The paths that a command on the service may reach. -/
def ServiceCommand.reach (settings : Settings) (home : Path) : ServiceCommand → List Path
  | install options | descriptor options => (requestOf settings home options).reach home
  | uninstall name | start name | stop name | restart name | status name _ =>
    [Layout.unit home (nameOf settings name)]
  | logs _ _ =>
    let directory := logDirectory settings home none
    [Layout.stdoutLog directory, Layout.stderrLog directory]

/-- The paths that a command on the binary may reach. -/
def TrustCommand.reach : TrustCommand → List Path
  | sign binary _ | verify binary _ | staple binary _ => [binary]
  | notarize binary _ => [binary, Pipeline.archivePath binary]
  | status _ _ => []

/-- The paths that a command may reach, apart from the file of the settings. -/
def Command.reach (settings : Settings) (home : Path) : Command → List Path
  | service command => command.reach settings home
  | trust command => command.reach

end Steward
