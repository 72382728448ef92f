import Steward.Command.Answer
import Steward.Command.Basic
import Steward.Record.Json
import Steward.Settings.Basic
import Steward.Trust.Pipeline

/-!
# Commands on the binary

Every command runs the pipeline, or a part of it, with the settings for
signing and notarization.  What asks the authority needs a credential and
looks for it before anything else.
-/

namespace Steward.TrustCommand

/-! ## What the settings say -/

/-- The credential in the settings. -/
def credentialOf (settings : TrustSection) : Except TrustError Credential :=
  Credential.resolve settings.account settings.password settings.team settings.profile

/-- The pipeline of the settings, with another identity if one is given. -/
def pipelineOf (tools : Toolbox α) (settings : TrustSection) (identity : Option String)
    (credential : Option Credential) : Pipeline α where
  signer := Codesign.signer tools
  packager := Packager.zip tools
  notary := settings.notaryTool.notary tools
  settings := {
    identity := identity.getD settings.identity
    bundleId := settings.bundleId
    credential := credential
    signing := { SigningOptions.standard with entitlements := settings.entitlements }
    timings := settings.timings }

/-! ## What is told -/

/-- A failure that speaks for itself. -/
def failure (cause : TrustError) : Answer :=
  Answer.failed cause.message cause.causes

/-- A failure in a larger context. -/
def failureIn (context : String) (cause : TrustError) : Answer :=
  Answer.failed context (cause.message :: cause.causes)

/-- How far an artifact came. -/
def leftText (artifact : Artifact) : String :=
  Answer.line ("✗ " ++ artifact.path.text ++ " left at stage '" ++ artifact.marker.label ++ "'") ++
    match artifact.trackingId? with
    | some trackingId => Answer.line ("submission id: " ++ trackingId.text)
    | none => ""

/-- The answer to a run that stopped early.  The failure of the run is that of its step, so the
text stands twice. -/
def stopped (run : PipelineFailure) : Answer :=
  (Answer.failed ("trust pipeline stopped at " ++ run.stage.text)
    (run.error.message :: run.error.message :: run.error.causes)).afterNotice
    ((run.artifact.map leftText).getD "")

/-- A binary with its digest. -/
def withDigest (artifact : Artifact) (words : String) : String :=
  artifact.path.text ++ words ++ " (sha256 " ++ artifact.sha256 ++ ")"

/-- A status in words. -/
def label : Status → String
  | .other token => token ++ " (unrecognised, still pending)"
  | known => known.text

def statusRecord (trackingId : TrackingId) (reading : Status) : Json :=
  .record [("status", reading.text), ("terminal", reading.isTerminal),
    ("tracking_id", trackingId.text)]

/-! ## Commands -/

/-- Signs a binary and checks the signature. -/
def runSign (pipeline : Pipeline α) (binary : Path) : Running α Answer := do
  match Artifact.track (← get).world.files binary with
  | .error cause => return failure cause
  | .ok artifact =>
    let (signed, artifact) ← pipeline.sign.run.run artifact
    if let .error cause := signed then
      return failureIn ("failed to sign " ++ binary.text) cause
    match ← (pipeline.verify artifact).run with
    | .error cause => return failure cause
    | .ok () => return Answer.said (Answer.line ("signed " ++ withDigest artifact ""))

def runVerify (pipeline : Pipeline α) (binary : Path) : Running α Answer := do
  match Artifact.track (← get).world.files binary with
  | .error cause => return failure cause
  | .ok artifact =>
    match ← (pipeline.verify artifact).run with
    | .error cause => return failure cause
    | .ok () =>
      return Answer.said (Answer.line ("signature on " ++ artifact.path.text ++ " is valid"))

/-- Takes a binary through the whole pipeline. -/
def runNotarize (pipeline : Pipeline α) (binary : Path) : Running α Answer := do
  match ← (pipeline.run binary).run with
  | .ok artifact =>
    return Answer.said (Answer.line ("✓ " ++ withDigest artifact " notarized and stapled"))
  | .error run => return stopped run

/-- Attaches the ticket of an earlier submission. -/
def runStaple (pipeline : Pipeline α) (binary : Path) (submission : TrackingId) :
    Running α Answer := do
  match ← (pipeline.stapleSubmitted binary submission).run with
  | .ok artifact => return Answer.said (Answer.line ("stapled " ++ artifact.path.text))
  | .error cause => return failureIn ("failed to staple " ++ binary.text) cause

/-- Asks once for the status of a submission. -/
def runStatus (pipeline : Pipeline α) (trackingId : TrackingId) (asRecord : Bool) :
    Running α Answer := do
  match ← (pipeline.queryStatus trackingId).run with
  | .ok reading =>
    return Answer.said (Answer.line
      (if asRecord then (statusRecord trackingId reading).pretty
      else trackingId.text ++ ": " ++ label reading))
  | .error cause => return failureIn ("failed to query submission " ++ trackingId.text) cause

/-- Runs a part of the pipeline that needs a credential. -/
def withCredential (tools : Toolbox α) (settings : TrustSection) (identity : Option String)
    (run : Pipeline α → Running α Answer) : Running α Answer :=
  match credentialOf settings with
  | .error cause => return failure cause
  | .ok credential => run (pipelineOf tools settings identity (some credential))

def run (tools : Toolbox α) (settings : TrustSection) : TrustCommand → Running α Answer
  | sign binary identity => runSign (pipelineOf tools settings identity none) binary
  | verify binary identity => runVerify (pipelineOf tools settings identity none) binary
  | notarize binary identity => withCredential tools settings identity (runNotarize · binary)
  | staple binary submission =>
    withCredential tools settings none (runStaple · binary submission)
  | status trackingId asRecord =>
    withCredential tools settings none (runStatus · trackingId asRecord)

end Steward.TrustCommand
