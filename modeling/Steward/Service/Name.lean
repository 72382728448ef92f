/-!
# Service names

A name is any text until something needs it to be valid: a valid name can
stand in a file name and in the command lines of the supervisors.
-/

namespace Steward

/-- The name of a service, valid or not. -/
structure ServiceName where
  text : String
  deriving DecidableEq, Repr

namespace ServiceName

/-- Whether a character may stand in a valid name. -/
def allows (c : Char) : Bool :=
  c.isAlphanum || c == '.' || c == '-' || c == '_' || c == '@'

/-- Whether a name is valid: not empty, no dot in front, and no other characters than ASCII
letters, digits, and `.`, `-`, `_`, `@`. -/
def isValid (name : ServiceName) : Bool :=
  match name.text.toList with
  | [] => false
  | first :: rest => first != '.' && (first :: rest).all allows

/-- The name used when none is given. -/
def standard : ServiceName := ⟨"dev.bridge.agent"⟩

end ServiceName

end Steward
