import Steward.Trust.Gateway

/-!
# The tools behind the gateways

The command lines of `codesign`, `ditto`, `zip`, `notarytool` and `altool`.
-/

namespace Steward

/-! ## Signing -/

namespace Codesign

/-- The arguments that sign a binary. -/
def signArguments (binary : Path) (identity : String) (options : SigningOptions) : List String :=
  ["--sign", identity] ++
  (if options.force then ["--force"] else []) ++
  (if options.hardenedRuntime then ["--options", "runtime"] else []) ++
  (if options.timestamp then ["--timestamp"] else []) ++
  (match options.entitlements with
    | some entitlements => ["--entitlements", entitlements.text]
    | none => []) ++
  [binary.text]

def verifyArguments (binary : Path) : List String :=
  ["--verify", "--strict", "--verbose=2", binary.text]

/-- Signing with `codesign`. -/
def signer (tools : Toolbox α) : Signer α where
  sign binary identity options := tools.run "codesign" (signArguments binary identity options)
  verify binary := tools.run "codesign" (verifyArguments binary)

end Codesign

/-! ## Packing -/

namespace Packager

/-- Packing with `ditto`, in the format that the authority expects. -/
def ditto (tools : Toolbox α) : Packager α := fun binary archive =>
  tools.perform "ditto" ["-c", "-k", "--keepParent", binary.text, archive.text]

/-- Packing with `zip`, where there is no `ditto`. -/
def zip (tools : Toolbox α) : Packager α := fun binary archive =>
  tools.perform "zip" ["-j", "-q", archive.text, binary.text]

end Packager

/-! ## Notarizing -/

/-- The clients of the authority. -/
inductive NotaryTool
  /-- The current client. -/
  | notarytool
  /-- The older client. -/
  | altool
  deriving DecidableEq, Repr

namespace NotaryTool

def name : NotaryTool → String
  | notarytool => "notarytool"
  | altool => "altool"

/-- The arguments that show a credential. -/
def credentialArguments : NotaryTool → Credential → List String
  | notarytool, .profile name => ["--keychain-profile", name]
  | notarytool, .password account secret team =>
    ["--apple-id", account, "--password", secret] ++
      (match team with
        | some team => ["--team-id", team]
        | none => [])
  | altool, .profile name => ["--password", "@keychain:" ++ name]
  | altool, .password account secret team =>
    ["--username", account, "--password", secret] ++
      (match team with
        | some team => ["--asc-provider", team]
        | none => [])

/-- The arguments that hand in an archive.  The current client has no use for the bundle. -/
def submitArguments (tool : NotaryTool) (archive : Path) (bundleId : String)
    (credential : Credential) : List String :=
  (match tool with
    | notarytool => ["notarytool", "submit", archive.text]
    | altool =>
      ["altool", "--notarize-app", "--primary-bundle-id", bundleId, "--file", archive.text]) ++
  tool.credentialArguments credential

/-- The arguments that ask for a status. -/
def infoArguments (tool : NotaryTool) (trackingId : TrackingId) (credential : Credential) :
    List String :=
  (match tool with
    | notarytool => ["notarytool", "info", trackingId.text]
    | altool => ["altool", "--notarization-info", trackingId.text]) ++
  tool.credentialArguments credential

def stapleArguments (binary : Path) : List String :=
  ["stapler", "staple", binary.text]

/-- Talking to the authority with a client. -/
def notary (tool : NotaryTool) (tools : Toolbox α) : Notary α where
  submit archive bundleId credential :=
    tools.run "xcrun" (tool.submitArguments archive bundleId credential)
  query trackingId credential := tools.run "xcrun" (tool.infoArguments trackingId credential)
  staple binary := tools.run "xcrun" (stapleArguments binary)

end NotaryTool

end Steward
