import Steward.Service.Descriptor
import Steward.Text.Blank

/-!
# Unit files

The descriptor of a service as systemd reads it: sections of directives, one
directive a line.  The words of the command line are quoted where they hold
blanks, quotes or backslashes, and specifiers and variables are kept from
being expanded.
-/

namespace Steward.UnitFile

/-- How a character is written where specifiers and variables are expanded. -/
def literalChar : Char → List Char
  | '%' => ['%', '%']
  | '$' => ['$', '$']
  | c => [c]

/-- How a character is written between double quotes. -/
def quotedChar : Char → List Char
  | '\\' => ['\\', '\\']
  | '"' => ['\\', '"']
  | c => [c]

/-- Whether a character has to stand between quotes. -/
def needsQuotes (c : Char) : Bool :=
  Text.isBlank c || c == '"' || c == '\\'

/-- How a word of a command line is written. -/
def quote (raw : String) : String :=
  let literal := raw.toList.flatMap literalChar
  if literal.any needsQuotes then String.ofList ('"' :: literal.flatMap quotedChar ++ ['"'])
  else String.ofList literal

def commandLine (arguments : List String) : String :=
  String.intercalate " " (arguments.map quote)

def lines (descriptor : Descriptor) : List String :=
  ["[Unit]",
   "Description=Bridge agent (" ++ descriptor.name.text ++ ")",
   "After=network-online.target",
   "",
   "[Service]",
   "Type=simple",
   "ExecStart=" ++ commandLine descriptor.arguments,
   "WorkingDirectory=" ++ quote descriptor.workingDirectory.text,
   "Restart=" ++ (if descriptor.restart.keepAlive then "on-failure" else "no"),
   "RestartSec=" ++ toString descriptor.restart.throttleSeconds.toNat,
   "StandardOutput=append:" ++ descriptor.stdoutPath.text,
   "StandardError=append:" ++ descriptor.stderrPath.text] ++
  (match descriptor.user with
    | none => []
    | some user => ["User=" ++ user]) ++
  (if descriptor.restart.runAtLoad then ["", "[Install]", "WantedBy=default.target"] else [])

def render (descriptor : Descriptor) : String :=
  String.join ((lines descriptor).map (fun line => line ++ "\n"))

end Steward.UnitFile
