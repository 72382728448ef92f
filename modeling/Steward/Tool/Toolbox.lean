import Steward.Session.World
import Steward.Text.Utf8
import Steward.Tool.Error

/-!
# Running tools

A toolbox starts programs by name.  `Toolbox.run` gives a program its
arguments and reads what it printed as text; a program that ends in any other
way than with status zero is a failure, in whose account the values of secret
arguments are masked.
-/

namespace Steward

/-- What a successful tool printed. -/
structure ToolOutput where
  stdout : String
  stderr : String
  deriving DecidableEq, Repr

/-- How a program that was started has ended. -/
structure Ending where
  stdout : ByteArray
  stderr : ByteArray
  /-- Its exit status; none if a signal ended it. -/
  status : Option Int

/-- The programs at hand: given a name and arguments, the program runs to its end, or the system
says why it cannot be started. -/
abbrev Toolbox (α : Type) := String → List String → Call (World α) IoError Ending

namespace ToolOutput

/-- Both texts without the blanks around them, a line feed between, empty ones left out. -/
def combine (stdout stderr : String) : String :=
  String.intercalate "\n" ([Text.trim stdout, Text.trim stderr].filter (fun part => !part.isEmpty))

/-- Everything a tool printed as one text. -/
def combined (output : ToolOutput) : String :=
  combine output.stdout output.stderr

end ToolOutput

namespace Toolbox

/-! ## Secrets -/

/-- The arguments that are followed by a secret. -/
def secretFlags : List String := ["--password", "-p"]

/-- What stands for a secret. -/
def mask : String := "******"

/-- Arguments with every secret masked.  A masked argument does not announce another secret. -/
def redact : List String → List String
  | [] => []
  | [argument] => [argument]
  | argument :: next :: rest =>
    if argument ∈ secretFlags then argument :: mask :: redact rest
    else argument :: redact (next :: rest)

/-! ## Runs -/

/-- Whether the system takes a text as an argument: null characters end one. -/
def isPassable (argument : String) : Bool :=
  !argument.toList.contains '\x00'

/-- Runs a program to its end. -/
def run (tools : Toolbox α) (program : String) (arguments : List String) :
    Call (World α) ToolError ToolOutput := do
  if !(program :: arguments).all isPassable then
    throw (.spawn program .nullInArgument)
  let ending ← ExceptT.adapt (ToolError.spawn program) (tools program arguments)
  let stdout := Text.decodeLossy ending.stdout
  let stderr := Text.decodeLossy ending.stderr
  if ending.status = some 0 then return ⟨stdout, stderr⟩
  throw (.failed program (redact arguments) ending.status (ToolOutput.combine stdout stderr))

/-- Runs a program to its end and forgets what it printed. -/
def perform (tools : Toolbox α) (program : String) (arguments : List String) :
    Call (World α) ToolError Unit := do
  let _ ← tools.run program arguments

end Toolbox

end Steward
