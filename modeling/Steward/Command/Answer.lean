import Steward.Command.Grammar
import Steward.Session.World
import Steward.Text.Blank

/-!
# Answers

What a command leaves behind for the one who gave it: text on the two outputs
and an exit status.  A failure is told together with the failures below it,
numbered when there are several, and further lines of one failure stand below
its first.
-/

namespace Steward

/-- What the program prints and how it ends. -/
structure Answer where
  stdout : String
  stderr : String
  status : UInt32
  deriving DecidableEq, Repr

/-- A computation in a session that cannot fail any more. -/
abbrev Running (α : Type) := StateM (Session (World α))

namespace Answer

/-! ## Failures -/

/-- A text whose lines after the first are moved to the right. -/
def hanging (columns : Nat) (text : String) : List Char :=
  List.intercalate ('\n' :: List.replicate columns ' ') (Text.pieces (· == '\n') text.toList)

/-- A number at the end of five columns. -/
def columnNumber (n : Nat) : List Char :=
  let digits := Nat.toDigits 10 n
  List.replicate (5 - digits.length) ' ' ++ digits

/-- The causes of a failure, each with its number. -/
def numbered (causes : List String) : List Char :=
  causes.zipIdx.flatMap (fun (cause, n) =>
    '\n' :: columnNumber n ++ [':', ' '] ++ hanging 7 cause)

def causesText : List String → List Char
  | [] => []
  | [cause] => "\n\nCaused by:\n    ".toList ++ hanging 4 cause
  | causes => "\n\nCaused by:".toList ++ numbered causes

/-- The text of a failure and its causes. -/
def failureText (failure : String) (causes : List String) : String :=
  "Error: " ++ failure ++ String.ofList (causesText causes) ++ "\n"

/-! ## Ways to answer -/

def line (text : String) : String := text ++ "\n"

/-- Success, with text. -/
def said (stdout : String) : Answer := ⟨stdout, "", 0⟩

def failed (failure : String) (causes : List String) : Answer :=
  ⟨"", failureText failure causes, 1⟩

/-- What is left of a program that crashes. -/
def crashed (message : String) : Answer := ⟨"", line message, 101⟩

/-- An answer after more text on standard output. -/
def afterOutput (answer : Answer) (text : String) : Answer :=
  { answer with stdout := text ++ answer.stdout }

/-- An answer after more text on standard error. -/
def afterNotice (answer : Answer) (text : String) : Answer :=
  { answer with stderr := text ++ answer.stderr }

/-! ## Answers without a command -/

/-- The name and version of the program. -/
def versionText : String := line "bridgectl 0.1.0"

/-- How the program is used. -/
def usageText : String :=
  String.join ([
    "usage: bridgectl service install|descriptor [--name N] [--executable P] [--config P]",
    "           [--log-dir P]",
    "       bridgectl service uninstall|start|stop|restart [--name N]",
    "       bridgectl service status [--name N] [--json]",
    "       bridgectl service logs [--lines N] [--stderr-only]",
    "       bridgectl trust sign|verify|notarize BINARY [--identity I]",
    "       bridgectl trust staple BINARY --submission ID",
    "       bridgectl trust status ID [--json]"].map line)

/-- The answer when no command comes out of the command line. -/
def ofStop : CommandLine.Stop → Answer
  | .help => said usageText
  | .version => said versionText
  | .usage => ⟨"", usageText, 2⟩

end Answer

end Steward
