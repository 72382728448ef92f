import Steward.Command.Answer
import Steward.Files.Operations
import Steward.Service.Layout

/-!
# Showing logs

Of every log the last lines are shown below its path.  A log that is not there
is no failure.  The room for the lines is asked for before the log is read, and
as much of it as was asked to be shown, however short the log is.
-/

namespace Steward.Logs

/-! ## Room for the lines -/

/-- The memory that a line takes apart from its text, in bytes. -/
def lineBytes : Nat := 24

/-- The memory that can be addressed, in bytes. -/
def addressable : Nat := 9223372036854775807

/-- The answer when room is asked for that cannot be addressed. -/
def overflow : Answer := ⟨"", Answer.line "capacity overflow", 101⟩

/-- The answer when there is no room of so many bytes. -/
def exhausted (bytes : Nat) : Answer :=
  ⟨"", Answer.line ("memory allocation of " ++ toString bytes ++ " bytes failed"), 134⟩

/-- Asks for the room that so many lines take, where `room` is what there is. -/
def reserve (room count : Nat) : Except Answer Unit :=
  if addressable < count * lineBytes then .error overflow
  else if room < count * lineBytes then .error (exhausted (count * lineBytes))
  else .ok ()

/-! ## The end of a log -/

/-- What is kept of the last items when one more comes: once all places are taken, the first that
came goes. -/
def keep (places : Nat) (kept : List β) (item : β) : List β :=
  if places = 0 then kept
  else (if kept.length = places then kept.tail else kept) ++ [item]

/-- The items that are still kept when all have come. -/
def lastOf (places : Nat) (items : List β) : List β :=
  items.foldl (keep places) []

/-- The text under which a log is shown. -/
def heading (path : Path) : String := "==> " ++ path.text ++ " <=="

/-- The end of the log in a file, or the answer if it cannot be shown.  `title` says which log it
is. -/
def show? (files : FileSystem) (room count : Nat) (title : String) (path : Path) :
    Except Answer String := do
  if !files.doesExist path then .ok (Answer.line ("log file not found: " ++ path.text))
  else
    reserve room count
    match files.readText path with
    | .error cause =>
      .error (Answer.failed ("failed to read bridge " ++ title ++ " log")
        ["read " ++ path.text, cause.message])
    | .ok text =>
      .ok (String.join ((heading path :: lastOf count (Text.lines text)).map Answer.line))

/-- The ends of logs one after the other, up to the first that cannot be read. -/
def showAll (files : FileSystem) (room count : Nat) : List (String × Path) → Answer
  | [] => Answer.said ""
  | (title, path) :: rest =>
    match show? files room count title path with
    | .error answer => answer
    | .ok text => (showAll files room count rest).afterOutput text

/-- The ends of the logs in a directory, or of the log of errors alone, where all the memory that
can be addressed is there. -/
def answer (files : FileSystem) (directory : Path) (count : Nat) (errorsOnly : Bool) : Answer :=
  let errors := ("stderr", Layout.stderrLog directory)
  showAll files addressable count
    (if errorsOnly then [errors] else [("stdout", Layout.stdoutLog directory), errors])

end Steward.Logs
