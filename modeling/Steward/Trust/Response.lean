import Steward.Trust.Status

/-!
# Responses of notarization tools

The tools print fields, one a line: a key, a colon or an equals sign, and a
value.  Of the fields of one kind the first counts.
-/

namespace Steward.Response

/-- A field: a key in small letters and a value. -/
structure Field where
  /-- The key in small letters, without the blanks around it. -/
  key : String
  value : String
  deriving DecidableEq, Repr

/-- Whether a character ends a key. -/
def isSeparator (c : Char) : Bool :=
  c == ':' || c == '='

/-- A text before and after the first separator in it. -/
def splitAtSeparator : List Char → Option (List Char × List Char)
  | [] => none
  | c :: rest =>
    if isSeparator c then some ([], rest)
    else
      match splitAtSeparator rest with
      | some (key, value) => some (c :: key, value)
      | none => none

/-- The field in a line. -/
def field? (line : String) : Option Field :=
  match splitAtSeparator line.toList with
  | some (key, value) =>
    some ⟨Text.lowered (String.ofList (Text.trimmed key)), String.ofList (Text.trimmed value)⟩
  | none => none

/-- The keys under which the tools print the id of a submission. -/
def trackingKeys : List String := ["id", "requestuuid", "request uuid"]

/-- Whether a value has the form of an id: ASCII letters, digits and dashes, and not empty. -/
def isId (value : String) : Bool :=
  !value.isEmpty && value.toList.all (fun c => c.isAlphanum || c == '-')

/-- The id in a field. -/
def trackingIdOf? (field : Field) : Option TrackingId :=
  if field.key ∈ trackingKeys && isId field.value then some ⟨field.value⟩ else none

/-- The word for the status in a field. -/
def statusOf? (field : Field) : Option String :=
  if field.key = "status" && !field.value.isEmpty then some field.value else none

/-- The id of a submission in a response. -/
def trackingId? (output : String) : Option TrackingId :=
  ((Text.lines output).filterMap field?).findSome? trackingIdOf?

/-- The word for the status of a submission in a response. -/
def statusToken? (output : String) : Option String :=
  ((Text.lines output).filterMap field?).findSome? statusOf?

end Steward.Response
