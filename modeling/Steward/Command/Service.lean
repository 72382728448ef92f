import Steward.Command.Answer
import Steward.Command.Basic
import Steward.Command.Logs
import Steward.Record.Service
import Steward.Service.Systemd
import Steward.Settings.Basic
import Steward.Text.Table

/-!
# Commands on the service

Every command drives the service with the waits in the settings and tells in
a line what has come of it.
-/

namespace Steward.ServiceCommand

/-! ## What the settings say -/

/-- The directory of the logs: the one given, the one in the settings, or the standard one. -/
def logDirectory (settings : Settings) (home : Path) (given : Option Path) : Path :=
  (given.or settings.service.logDirectory).getD (Layout.logs home)

/-- The name of the service: the one given, or the one in the settings. -/
def nameOf (settings : Settings) (given : Option String) : ServiceName :=
  (given.map ServiceName.mk).getD settings.service.name

/-- What is to be installed. -/
def requestOf (settings : Settings) (home : Path) (options : DescriptorOptions) :
    InstallRequest where
  name := nameOf settings options.name
  executable := options.executable.getD settings.service.executable
  config := options.config.or settings.service.config
  workingDirectory := settings.service.workingDirectory
  logDirectory := logDirectory settings home options.logDirectory
  user := settings.service.user
  restart := settings.service.restart

/-! ## What is told -/

/-- The failure of a command. -/
def failure (what : String) (cause : ServiceError) : Answer :=
  Answer.failed ("failed to " ++ what) (cause.message :: cause.causes)

/-- A line about the service. -/
def about (name : ServiceName) (rest : String) : Answer :=
  Answer.said (Answer.line ("service '" ++ name.text ++ "' " ++ rest))

/-- The answer to a command that changes the state of the service. -/
def answerChange (name : ServiceName) (verb done already : String) :
    Except ServiceError Transition → Answer
  | .ok .completed => about name done
  | .ok .alreadyInDesiredState => about name (already ++ "; nothing to do")
  | .error cause => failure (verb ++ " service") cause

/-- The answer to an installation. -/
def answerInstall (name : ServiceName) : Except ServiceError Path → Answer
  | .ok path =>
    Answer.said (Answer.line ("installed service '" ++ name.text ++ "': " ++ path.text))
  | .error cause =>
    if cause.isNoop then Answer.said (Answer.line cause.message)
    else failure "install service" cause

/-- The state of a service as a label. -/
def label : ServiceState → String
  | .notInstalled => "NOT INSTALLED"
  | .installedStopped => "STOPPED"
  | .running => "RUNNING"

def tableOf (report : ServiceReport) : Table where
  titles := ["service", "state", "pid", "descriptor"]
  rows := [[report.name, label report.state,
    (report.pid.map (fun pid => toString pid.toNat)).getD "-",
    report.descriptor.text ++ if report.descriptorPresent then "" else " (absent)"]]

def reportText (report : ServiceReport) : String :=
  Answer.line ("■ " ++ report.state.text) ++ (tableOf report).render ++
    if report.state = .notInstalled then
      Answer.line "Run 'bridgectl service install' to register the bridge."
    else ""

/-! ## Commands -/

/-- The controller of the service under a name. -/
def controllerOf (tools : Toolbox α) (settings : Settings) (home : Path)
    (name : Option String) : Controller α where
  supervisor := Systemd.supervisor tools home
  name := nameOf settings name
  timings := settings.lifecycle.timings

/-- Runs an operation on the service under a name and answers by its result, unless the program
crashes. -/
def drive (tools : Toolbox α) (settings : Settings) (home : Path) (name : Option String)
    (operation : Controller α → Act (World α) ServiceError β)
    (answer : ServiceName → Except ServiceError β → Answer) : Running α Answer := do
  let controller := controllerOf tools settings home name
  match ← (operation controller).run with
  | .error .crashed => return Answer.crashed ServiceError.crashed.message
  | result => return answer controller.name result

def run (tools : Toolbox α) (settings : Settings) (home : Path) :
    ServiceCommand → Running α Answer
  | install options =>
    drive tools settings home options.name
      (·.install (requestOf settings home options)) answerInstall
  | uninstall name =>
    drive tools settings home name (·.uninstall)
      (fun name => answerChange name "uninstall" "uninstalled" "not installed")
  | start name =>
    drive tools settings home name (·.start)
      (fun name => answerChange name "start" "started" "already running")
  | stop name =>
    drive tools settings home name (·.stop)
      (fun name => answerChange name "stop" "stopped" "not running")
  | restart name =>
    drive tools settings home name (·.restart) fun
      | name, .ok () => about name "restarted"
      | _, .error cause => failure "restart service" cause
  | status name asRecord => do
    let asked : Act (World α) Empty ServiceReport := (controllerOf tools settings home name).report
    match ← asked.run with
    | .ok report =>
      return Answer.said
        (if asRecord then Answer.line report.record.pretty else reportText report)
  | descriptor options =>
    drive tools settings home options.name (·.preview (requestOf settings home options)) fun
      | _, .ok text => Answer.said text
      | _, .error cause => failure "render service descriptor" cause
  | logs count errorsOnly => do
    return Logs.answer (← get).world.files (logDirectory settings home none) count errorsOnly

end Steward.ServiceCommand
