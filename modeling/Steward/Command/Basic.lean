import Steward.Command.Grammar
import Steward.Files.Path
import Steward.Trust.Status

/-!
# Commands

What the program can be told to do, and how it is told on the command line.
-/

namespace Steward

/-- What replaces the settings when a descriptor is made. -/
structure DescriptorOptions where
  name : Option String
  executable : Option Path
  config : Option Path
  logDirectory : Option Path
  deriving DecidableEq, Repr

/-- A command on the service.  A name replaces the one in the settings. -/
inductive ServiceCommand
  /-- Write the descriptor and load it. -/
  | install (options : DescriptorOptions)
  /-- Stop and unload the service and remove its descriptor. -/
  | uninstall (name : Option String)
  | start (name : Option String)
  | stop (name : Option String)
  | restart (name : Option String)
  /-- Tell the state of the service, perhaps as a record. -/
  | status (name : Option String) (asRecord : Bool)
  /-- Show the descriptor that would be written. -/
  | descriptor (options : DescriptorOptions)
  /-- Show the last lines of the logs, or of the log of errors alone. -/
  | logs (count : Nat) (errorsOnly : Bool)
  deriving DecidableEq, Repr

/-- A command on the binary. -/
inductive TrustCommand
  /-- Sign it and check the signature. -/
  | sign (binary : Path) (identity : Option String)
  | verify (binary : Path) (identity : Option String)
  /-- Take it through the whole pipeline. -/
  | notarize (binary : Path) (identity : Option String)
  /-- Attach the ticket of an earlier submission. -/
  | staple (binary : Path) (submission : TrackingId)
  /-- Ask once for the status of a submission, perhaps as a record. -/
  | status (trackingId : TrackingId) (asRecord : Bool)
  deriving DecidableEq, Repr

/-- What the program can be told to do. -/
inductive Command
  | service (command : ServiceCommand)
  | trust (command : TrustCommand)
  deriving DecidableEq, Repr

namespace Command

open CommandLine

/-! ## Options -/

/-- The options that every level has. -/
def commonOptions : List Slot := [("help", .ends .help), ("log-level", .text)]

/-- A command with options of its own. -/
def commandWith (options operands : List Slot) (build : Given → Option Command) :
    Grammar Command :=
  .command (options ++ commonOptions) operands build

def nameSlot : Slot := ("name", .text)

def identitySlot : Slot := ("identity", .text)

/-- The switch for records. -/
def jsonSlot : Slot := ("json", .flag)

/-- What replaces the settings. -/
def descriptorSlots : List Slot :=
  [nameSlot, ("executable", .path), ("config", .path), ("log-dir", .path)]

def path? (given : Given) (name : String) : Option Path :=
  (given.lookup name).map Path.mk

/-- What is given to replace the settings. -/
def descriptorOptions (given : Given) : DescriptorOptions where
  name := given.lookup "name"
  executable := path? given "executable"
  config := path? given "config"
  logDirectory := path? given "log-dir"

/-! ## The tree of commands -/

/-- How many lines of a log are shown when no number is given. -/
def standardLineCount : Nat := 100

/-- A command that needs no more than the name of the service. -/
def namedCommand (build : Option String → ServiceCommand) : Grammar Command :=
  commandWith [nameSlot] [] (fun given => some (.service (build (given.lookup "name"))))

/-- A command that needs what replaces the settings. -/
def descriptorCommand (build : DescriptorOptions → ServiceCommand) : Grammar Command :=
  commandWith descriptorSlots [] (fun given => some (.service (build (descriptorOptions given))))

/-- A command on a binary. -/
def binaryCommand (build : Path → Option String → TrustCommand) : Grammar Command :=
  commandWith [identitySlot] [("binary", .path)] (fun given => do
    let binary ← path? given "binary"
    return .trust (build binary (given.lookup "identity")))

def serviceGrammar : Grammar Command := .group commonOptions [
  ("install", descriptorCommand .install),
  ("uninstall", namedCommand .uninstall),
  ("start", namedCommand .start),
  ("stop", namedCommand .stop),
  ("restart", namedCommand .restart),
  ("status", commandWith [nameSlot, jsonSlot] [] (fun given =>
    some (.service (.status (given.lookup "name") (given.has "json"))))),
  ("descriptor", descriptorCommand .descriptor),
  ("logs", commandWith [("lines", .count), ("stderr-only", .flag)] [] (fun given =>
    some (.service (.logs ((given.count? "lines").getD standardLineCount)
      (given.has "stderr-only")))))]

def trustGrammar : Grammar Command := .group commonOptions [
  ("sign", binaryCommand .sign),
  ("verify", binaryCommand .verify),
  ("notarize", binaryCommand .notarize),
  ("staple", commandWith [("submission", .text)] [("binary", .path)] (fun given => do
    let binary ← path? given "binary"
    let submission ← given.lookup "submission"
    return .trust (.staple binary ⟨submission⟩))),
  ("status", commandWith [jsonSlot] [("tracking id", .text)] (fun given => do
    let trackingId ← given.lookup "tracking id"
    return .trust (.status ⟨trackingId⟩ (given.has "json"))))]

def grammar : Grammar Command :=
  .group (("version", .ends .version) :: commonOptions)
    [("service", serviceGrammar), ("trust", trustGrammar)]

/-- The command on a command line. -/
def parse (arguments : List String) : Except Stop Command :=
  CommandLine.read grammar arguments

end Command

end Steward
