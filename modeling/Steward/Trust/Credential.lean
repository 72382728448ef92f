import Steward.Trust.Error

/-!
# Credentials

How the program makes itself known to the authority: by a profile that the
keychain knows, or by an account and its password.
-/

namespace Steward

/-- What the authority is shown. -/
inductive Credential
  /-- An account, its password, and a team if it has several. -/
  | password (account secret : String) (team : Option String)
  /-- The name of a profile in the keychain. -/
  | profile (name : String)
  deriving DecidableEq, Repr

namespace Credential

/-- A setting without the blanks around it, if anything is left. -/
def present? (setting : Option String) : Option String :=
  (setting.map Text.trim).filter (fun value => !value.isEmpty)

/-- The failure when there is no credential. -/
def missing : TrustError :=
  .configuration "no notarization credential: set a password or a keychain profile"

/-- The credential in settings that may be absent.  A profile wins over a password, and a password
needs an account. -/
def resolve (account secret team profile : Option String) : Except TrustError Credential :=
  match present? profile with
  | some name => .ok (.profile name)
  | none =>
    match present? account, present? secret with
    | some account, some secret => .ok (.password account secret (present? team))
    | none, some _ =>
      .error (.configuration "a notarization password needs an account (apple_id)")
    | _, none => .error missing

end Credential

end Steward
