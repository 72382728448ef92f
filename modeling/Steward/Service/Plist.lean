import Steward.Service.Descriptor

/-!
# Property lists

The descriptor of a service as launchd reads it.  The values of the
descriptor stand between tags with the five characters that XML reserves
replaced by entities, so that no value can be taken for a tag.
-/

namespace Steward.Plist

/-- How a character is written between tags. -/
def escapeChar : Char → List Char
  | '&' => "&amp;".toList
  | '<' => "&lt;".toList
  | '>' => "&gt;".toList
  | '"' => "&quot;".toList
  | '\'' => "&apos;".toList
  | c => [c]

/-- How a text is written between tags. -/
def escape (raw : String) : String :=
  String.ofList (raw.toList.flatMap escapeChar)

/-- A value between the tags of a string. -/
def stringElement (value : String) : String :=
  "<string>" ++ escape value ++ "</string>"

def truth (value : Bool) : String :=
  if value then "<true/>" else "<false/>"

/-- The element that says when to start again: after a failed exit, so that a requested stop
sticks, or never. -/
def keepAlive (value : Bool) : String :=
  if value then "<dict>\n    <key>SuccessfulExit</key>\n    <false/>\n  </dict>" else "<false/>"

/-- A key of the outer dictionary and the element after it. -/
def pair (key element : String) : String :=
  "  <key>" ++ key ++ "</key>\n  " ++ element ++ "\n"

/-- The element of the command line. -/
def array (values : List String) : String :=
  "<array>\n" ++ String.join (values.map (fun value => "    " ++ stringElement value ++ "\n")) ++
    "  </array>"

/-- What stands before the outer dictionary. -/
def header : String :=
  "<?xml version=\"1.0\" encoding=\"UTF-8\"?>\n" ++
  "<!DOCTYPE plist PUBLIC \"-//Apple//DTD PLIST 1.0//EN\" " ++
  "\"http://www.apple.com/DTDs/PropertyList-1.0.dtd\">\n" ++
  "<plist version=\"1.0\">\n"

def render (descriptor : Descriptor) : String :=
  header ++ "<dict>\n" ++
  pair "Label" (stringElement descriptor.name.text) ++
  pair "ProgramArguments" (array descriptor.arguments) ++
  pair "WorkingDirectory" (stringElement descriptor.workingDirectory.text) ++
  pair "RunAtLoad" (truth descriptor.restart.runAtLoad) ++
  pair "KeepAlive" (keepAlive descriptor.restart.keepAlive) ++
  pair "ThrottleInterval"
    ("<integer>" ++ toString descriptor.restart.throttleSeconds.toNat ++ "</integer>") ++
  pair "StandardOutPath" (stringElement descriptor.stdoutPath.text) ++
  pair "StandardErrorPath" (stringElement descriptor.stderrPath.text) ++
  (match descriptor.user with
    | none => ""
    | some user => pair "UserName" (stringElement user)) ++
  "</dict>\n</plist>\n"

end Steward.Plist
