import Steward.Service.Launchd

/-!
# systemd

The supervisor that is driven through `systemctl --user`.  It shows the
properties of a unit as lines `key=value`.
-/

namespace Steward.Systemd

/-! ## Properties -/

/-- A text before and after the first equals sign in it. -/
def splitAtEquals : List Char → Option (List Char × List Char)
  | [] => none
  | '=' :: rest => some ([], rest)
  | c :: rest =>
    match splitAtEquals rest with
    | some (key, value) => some (c :: key, value)
    | none => none

/-- The properties that matter. -/
structure Properties where
  /-- Whether and how the unit is loaded, if that is told. -/
  loadState : Option String
  /-- The main process id, if a number is told that can be one. -/
  mainPid : Option UInt32
  deriving DecidableEq, Repr

/-- The properties after one more line of output. -/
def Properties.read (properties : Properties) (line : String) : Properties :=
  match splitAtEquals (Text.trimmed line.toList) with
  | none => properties
  | some (key, value) =>
    let value := String.ofList (Text.trimmed value)
    if String.ofList key = "LoadState" then { properties with loadState := some value }
    else if String.ofList key = "MainPID" then { properties with mainPid := Launchd.pid? value }
    else properties

/-- What the properties say about the service. -/
def Properties.liveness (properties : Properties) : Liveness :=
  match properties.loadState with
  | none => .notLoaded
  | some state =>
    if state = "not-found" || state.isEmpty then .notLoaded
    else
      match properties.mainPid with
      | some pid => .running pid
      | none => .loaded

/-- What the output of `systemctl show` says about the service; of two lines with one key the
later counts. -/
def readProperties (output : String) : Liveness :=
  ((Text.lines output).foldl Properties.read ⟨none, none⟩).liveness

/-! ## The supervisor -/

/-- Whether a failure says that there is no such unit. -/
def saysNotLoaded : ToolError → Bool :=
  ToolError.hints [5] ["not loaded", "does not exist", "not found"]

def unit (name : ServiceName) : String :=
  name.text ++ ".service"

/-- Runs `systemctl` for the user's own units. -/
def systemctl (tools : Toolbox α) (arguments : List String) : Call (World α) ToolError String := do
  let output ← tools.run "systemctl" ("--user" :: arguments)
  return output.stdout

/-- Disables the unit of a service; that systemd then cannot read its units again does not
matter. -/
def disable (tools : Toolbox α) (name : ServiceName) : Call (World α) ToolError Bool := do
  let wasLoaded ← Call.recover
    (do
      let _ ← systemctl tools ["disable", unit name]
      return true)
    saysNotLoaded false
  Call.recover
    (do
      let _ ← systemctl tools ["daemon-reload"])
    (fun _ => true) ()
  return wasLoaded

/-- The systemd of the user whose home is given. -/
def supervisor (tools : Toolbox α) (home : Path) : Supervisor α where
  dialect := .systemd
  descriptorPath := Layout.unit home
  register name _ := do
    let _ ← systemctl tools ["daemon-reload"]
    let _ ← systemctl tools ["enable", unit name]
  deregister name := disable tools name
  start name := do
    let _ ← systemctl tools ["start", unit name]
  stop name := do
    let _ ← systemctl tools ["stop", unit name]
  query name := do
    let output ← systemctl tools
      ["show", unit name, "--property=LoadState", "--property=MainPID"]
    return readProperties output

end Steward.Systemd
