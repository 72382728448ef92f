import Steward.Tool.Toolbox
import Steward.Trust.Credential

/-!
# Gateways of the pipeline

The tools that sign, pack and notarize, known only by the requests they
answer.  A gateway hands back what its tool printed; what that means is for
the pipeline to say.
-/

namespace Steward

/-- How a binary is signed. -/
structure SigningOptions where
  hardenedRuntime : Bool
  timestamp : Bool
  entitlements : Option Path
  /-- Replace a signature that is there. -/
  force : Bool
  deriving DecidableEq, Repr

/-- Everything asked for, and no entitlements. -/
def SigningOptions.standard : SigningOptions := ⟨true, true, none, true⟩

/-- What signs binaries. -/
structure Signer (α : Type) where
  /-- Signs a binary with an identity. -/
  sign : Path → String → SigningOptions → Call (World α) ToolError ToolOutput
  /-- Checks the signature on a binary. -/
  verify : Path → Call (World α) ToolError ToolOutput

/-- What packs a binary into an archive. -/
abbrev Packager (α : Type) := Path → Path → Call (World α) ToolError Unit

/-- What talks to the authority. -/
structure Notary (α : Type) where
  /-- Hands in an archive for a bundle. -/
  submit : Path → String → Credential → Call (World α) ToolError ToolOutput
  /-- Asks for the status of a submission. -/
  query : TrackingId → Credential → Call (World α) ToolError ToolOutput
  /-- Attaches the ticket to a binary. -/
  staple : Path → Call (World α) ToolError ToolOutput

end Steward
