import Steward.Record.Trust

/-!
# Rehearsals

A rehearsal runs the program in a world where everything outside plays from a
script: tools, supervisor and gateways.  Each of them has its replies, plays
them one after the other and then repeats the last, and notes every call.
-/

namespace Steward.Rehearsal

/-- A change that a player makes to a file. -/
structure FileChange where
  path : Path
  bytes : ByteArray
  /-- Whether they are added to those already there. -/
  adds : Bool

/-- What a tool does when it is run. -/
structure ToolReply where
  changes : List FileChange
  /-- What it prints and how it ends. -/
  ending : Ending

/-- What a tool is like. -/
inductive ToolScript
  /-- It may not be run. -/
  | forbidden
  | replies (script : List ToolReply)

/-- What a packager leaves where the archive should be. -/
inductive ArchiveEffect
  | file
  | directory
  | nothing
  deriving DecidableEq, Repr

/-- What a gateway does when it is asked. -/
structure GatewayReply where
  /-- Whether the caller's token is fired. -/
  fires : Bool
  /-- Text that is added to the binary. -/
  adds : Option String
  removesBinary : Bool
  /-- What is left where the archive should be. -/
  archive : ArchiveEffect
  result : Except ToolError ToolOutput

/-- What a supervisor knows of its one service, and how it behaves. -/
structure SupervisorScript where
  registered : Bool
  running : Bool
  pid : UInt32
  /-- How many queries a start takes. -/
  startDelay : Nat
  /-- How many queries a stop takes. -/
  stopDelay : Nat
  /-- How many queries are left until the service runs. -/
  pendingStart : Option Nat
  /-- How many queries are left until the service has stopped. -/
  pendingStop : Option Nat
  neverStart : Bool
  neverStop : Bool
  stopUnloads : Bool
  failing : List String
  /-- How many queries fail from now on. -/
  failingQueries : Nat
  /-- In which query from now on the caller's token is fired. -/
  firesIn : Option Nat
  /-- Whether the descriptor is removed when it is loaded. -/
  removesDescriptor : Bool

/-- A service that is not known, and requests that take effect at once. -/
def SupervisorScript.quiet : SupervisorScript where
  registered := false
  running := false
  pid := 4242
  startDelay := 0
  stopDelay := 0
  pendingStart := none
  pendingStop := none
  neverStart := false
  neverStop := false
  stopUnloads := false
  failing := []
  failingQueries := 0
  firesIn := none
  removesDescriptor := false

/-- Everything outside that plays from a script. -/
structure Stage where
  tools : List (String × ToolScript)
  /-- The replies of the gateways by request. -/
  gateways : List (String × List GatewayReply)
  supervisor : SupervisorScript
  /-- How often each player has been called. -/
  counts : List (String × Nat)
  /-- The calls, the last first. -/
  calls : List (List Json)

namespace Stage

def empty : Stage := ⟨[], [], SupervisorScript.quiet, [], []⟩

def count (stage : Stage) (player : String) : Nat :=
  (stage.counts.lookup player).getD 0

/-- The stage after a player has been called once more. -/
def counted (stage : Stage) (player : String) : Stage :=
  { stage with counts :=
      (player, stage.count player + 1) :: stage.counts.filter (fun row => row.1 != player) }

def noted (stage : Stage) (call : List Json) : Stage :=
  { stage with calls := call :: stage.calls }

end Stage

/-- The reply at a place in a script, or the last one. -/
def replyAt (script : List β) (place : Nat) : Option β :=
  script[place]?.or script.getLast?

/-- The world of a rehearsal. -/
abbrev Scene := World Stage

def note (scene : Scene) (call : List Json) : Scene :=
  { scene with agent := scene.agent.noted call }

/-- A reply that takes no time. -/
def reply (answer : β) (scene : Scene) (fired : Bool) : Reply Scene β :=
  ⟨answer, scene, 0, fired⟩

/-- The files after a change; a change that cannot be made is left out. -/
def FileChange.apply (files : FileSystem) (change : FileChange) : FileSystem :=
  let earlier := if change.adds then (files.read change.path).toOption.getD ByteArray.empty
    else ByteArray.empty
  (files.write change.path (earlier ++ change.bytes)).toOption.getD files

end Steward.Rehearsal
