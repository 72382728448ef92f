import Steward.Service.Error
import Steward.Service.Layout
import Steward.Service.Supervisor
import Steward.Text.Decimal

/-!
# launchd

The supervisor that is driven through `launchctl`.  Its listing has a row for
each loaded service: the process id or a dash, the last status, the label.
-/

namespace Steward.Launchd

/-- The greatest process id. -/
def mostPid : Nat := 4294967295

/-- A process id: a number from one up. -/
def pid? (text : String) : Option UInt32 :=
  match Text.natUpTo? mostPid text with
  | some n => if n = 0 then none else some (UInt32.ofNat n)
  | none => none

/-! ## Listings -/

/-- What a row says about the service it names, if it names the given one. -/
def readRow? (name : ServiceName) (row : String) : Option Liveness :=
  match Text.words row with
  | pid :: _ :: label :: _ =>
    if label = name.text then
      some (match pid? pid with
        | some pid => .running pid
        | none => .loaded)
    else none
  | _ => none

/-- What a listing says about a service: the first row that names it counts. -/
def readListing (listing : String) (name : ServiceName) : Liveness :=
  ((Text.lines listing).findSome? (readRow? name)).getD .notLoaded

/-! ## Failures that are answers -/

/-- Whether a failure says that there is no such service. -/
def saysNotLoaded : ToolError → Bool :=
  ToolError.hints [3, 113]
    ["could not find specified service", "no such process", "not loaded"]

/-- Whether a failure says that the service is loaded already. -/
def saysAlreadyLoaded : ToolError → Bool :=
  ToolError.hints [37] ["already loaded", "already in progress"]

/-! ## The supervisor -/

/-- What a service is called in a domain. -/
def target (domain : String) (name : ServiceName) : String :=
  domain ++ "/" ++ name.text

/-- Unloads a service. -/
def bootout (tools : Toolbox α) (domain : String) (name : ServiceName) :
    Call (World α) ToolError Bool :=
  Call.recover
    (do
      tools.perform "launchctl" ["bootout", target domain name]
      return true)
    saysNotLoaded false

/-- The launchd of the user whose home is given, in a domain.  To stop a service is to unload it:
a process that is only killed would be started again. -/
def supervisor (tools : Toolbox α) (home : Path) (domain : String) : Supervisor α where
  dialect := .launchd
  descriptorPath := Layout.plist home
  register _ descriptor :=
    Call.recover (tools.perform "launchctl" ["bootstrap", domain, descriptor.text])
      saysAlreadyLoaded ()
  deregister name := bootout tools domain name
  start name := tools.perform "launchctl" ["kickstart", target domain name]
  stop name := do
    let _ ← bootout tools domain name
  query name := do
    let output ← tools.run "launchctl" ["list"]
    return readListing output.stdout name

/-- The domain of the user who runs the program. -/
def currentDomain (tools : Toolbox α) : Call (World α) ServiceError String := do
  let output ← ExceptT.adapt (ServiceError.supervisor "resolve uid" "launchd")
    (tools.run "id" ["-u"])
  let uid := Text.trim output.stdout
  if uid.isEmpty then throw (.unsupported "current uid from \x60id -u\x60 was empty")
  return "gui/" ++ uid

/-- The launchd of the user who runs the program. -/
def forCurrentUser (tools : Toolbox α) (home : Path) :
    Call (World α) ServiceError (Supervisor α) := do
  let domain ← currentDomain tools
  return supervisor tools home domain

end Steward.Launchd
