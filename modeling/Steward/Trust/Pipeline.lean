import Steward.Trust.Artifact
import Steward.Trust.Gateway
import Steward.Trust.Response
import Steward.Trust.Submission

/-!
# The trust pipeline

Sign, verify, package, submit, wait for the verdict, staple.  What the
settings must hold is checked before the first tool runs.  The archive is
scratch: from the moment its path is claimed until the run is over, whatever
stands there is removed on every way out.
-/

namespace Steward

/-- What the pipeline needs besides its gateways. -/
structure TrustSettings where
  identity : String
  /-- The bundle that the authority knows the binary by. -/
  bundleId : String
  credential : Option Credential
  signing : SigningOptions
  timings : NotarizationTimings
  deriving DecidableEq, Repr

/-- The gateways and settings of a run. -/
structure Pipeline (α : Type) where
  signer : Signer α
  packager : Packager α
  notary : Notary α
  settings : TrustSettings

/-- A run that stopped early. -/
structure PipelineFailure where
  stage : Stage
  /-- The artifact as far as it came; none if the binary was not even opened. -/
  artifact : Option Artifact
  error : TrustError
  deriving DecidableEq, Repr

/-- A step on an artifact, which is kept as far as it came when the step fails. -/
abbrev Work (α ε : Type) := ExceptT ε (StateT Artifact (StateM (Session (World α))))

namespace Work

/-- A computation that leaves the artifact alone. -/
def act (computation : Act (World α) ε β) : Work α ε β := fun artifact session =>
  let (result, session) := computation session
  ((result, artifact), session)

/-- A result that is there already. -/
def ofExcept (result : Except ε β) : Work α ε β := fun artifact session =>
  ((result, artifact), session)

/-- Replaces the artifact by what a step makes of it, if the step succeeds. -/
def update (step : Artifact → Except ε Artifact) : Work α ε Unit := fun artifact session =>
  match step artifact with
  | .ok artifact => ((.ok (), artifact), session)
  | .error failure => ((.error failure, artifact), session)

/-- Does something to the files after a step, whether it failed or not. -/
def always (step : Work α ε β) (cleanup : FileAct ε Unit) : Work α ε β :=
  fun artifact session =>
    let ((result, artifact), session) := step artifact session
    let (_, session) := Act.onFiles cleanup session
    ((result, artifact), session)

/-- Does something to the files after a step that failed. -/
def onFailure (step : Work α ε β) (cleanup : FileAct ε Unit) : Work α ε β :=
  fun artifact session =>
    match step artifact session with
    | ((.error failure, artifact), session) =>
      let (_, session) := Act.onFiles cleanup session
      ((.error failure, artifact), session)
    | done => done

end Work

namespace Pipeline

/-! ## What must hold -/

/-- The identity, without the blanks around it. -/
def identity (pipeline : Pipeline α) : Except TrustError String :=
  let identity := Text.trim pipeline.settings.identity
  if identity.isEmpty then .error (.configuration "no signing identity configured")
  else .ok identity

/-- The bundle, without the blanks around it. -/
def bundleId (pipeline : Pipeline α) : Except TrustError String :=
  let bundleId := Text.trim pipeline.settings.bundleId
  if bundleId.isEmpty then .error (.configuration "no bundle id configured") else .ok bundleId

def credential (pipeline : Pipeline α) : Except TrustError Credential :=
  match pipeline.settings.credential with
  | some credential => .ok credential
  | none => .error Credential.missing

/-- Fails if the token has fired. -/
def checkToken (stage : Stage) : Act (World α) TrustError Unit := do
  if ← Act.isCancelled then throw (.cancelled stage)

/-- Fails if the binary is not there. -/
def checkBinary (artifact : Artifact) : Act (World α) TrustError Unit := do
  if !(← Act.files).isFile artifact.path then throw (.notFound artifact.path)

/-! ## The archive -/

/-- The archive of a binary: beside it, with the extension `zip`. -/
def archivePath (binary : Path) : Path :=
  binary.withExtension "zip"

/-- The archive of a binary that is not its own archive. -/
def distinctArchivePath (binary : Path) : Except TrustError Path :=
  let archive := archivePath binary
  if archive.sameParts binary then
    .error (.configuration
      (binary.text ++ " already has the archive extension; rename the binary before certifying it"))
  else .ok archive

/-- Clears the path of the archive. -/
def claim (archive : Path) : FileAct TrustError Unit :=
  ExceptT.adapt (TrustError.io archive) (FileAct.clear archive)

/-! ## Steps -/

/-- Asks a gateway; its failure is a failure of the step. -/
def ask (stage : Stage) (request : Call (World α) ToolError β) : Act (World α) TrustError β :=
  Act.call (ExceptT.adapt (TrustError.gateway stage) request)

/-- Takes the digest of the binary again. -/
def refresh : Work α TrustError Unit := do
  let files ← Work.act Act.files
  Work.update (fun artifact => artifact.refresh files)

/-- Has a tool rewrite the binary, which reaches a marker by it and gets a new digest. -/
def rewrite (stage : Stage) (next : Marker) (request : Call (World α) ToolError ToolOutput) :
    Work α TrustError Unit := do
  let _ ← Work.act (ask stage request)
  Work.update (fun artifact => artifact.advance next)
  refresh

def sign (pipeline : Pipeline α) : Work α TrustError Unit := do
  Work.act (checkToken .sign)
  let identity ← Work.ofExcept pipeline.identity
  let artifact ← get
  Work.act (checkBinary artifact)
  rewrite .sign .signed (pipeline.signer.sign artifact.path identity pipeline.settings.signing)

/-- Checks the signature.  If it does not hold right after signing, something is wrong with the
machine and not with the binary. -/
def verify (pipeline : Pipeline α) (artifact : Artifact) : Act (World α) TrustError Unit := do
  checkToken .verify
  checkBinary artifact
  match ← Act.attempt (pipeline.signer.verify artifact.path) with
  | .ok _ => pure ()
  | .error cause =>
    if artifact.marker = .signed then
      throw (.inconsistentState artifact.path cause.diagnostic)
    else throw (.gateway .verify cause)

/-- Packs the binary into an archive whose path has been claimed. -/
def pack (pipeline : Pipeline α) (archive : Path) : Work α TrustError Unit := do
  let artifact ← get
  Work.act (ask .package (pipeline.packager artifact.path archive))
  if !(← Work.act Act.files).isFile archive then
    throw (.protocol .package ("no archive written at " ++ archive.text))
  Work.update (fun artifact => artifact.advance (.packaged archive))

/-- Packs the binary and gives the archive, which is then for the caller to remove. -/
def package (pipeline : Pipeline α) : Work α TrustError Path := do
  Work.act (checkToken .package)
  let artifact ← get
  Work.act (checkBinary artifact)
  let archive ← Work.ofExcept (distinctArchivePath artifact.path)
  Work.act (Act.onFiles (claim archive))
  Work.onFailure (pipeline.pack archive) (FileAct.discard archive)
  return archive

def submit (pipeline : Pipeline α) (archive : Path) : Work α TrustError Submission := do
  Work.act (checkToken .submit)
  let bundleId ← Work.ofExcept pipeline.bundleId
  let credential ← Work.ofExcept pipeline.credential
  let output ← Work.act (ask .submit (pipeline.notary.submit archive bundleId credential))
  let text := output.combined
  match Response.trackingId? text with
  | none => throw (.protocol .submit ("no submission id in response: " ++ text))
  | some trackingId =>
    Work.update (fun artifact => artifact.advance (.submitted trackingId))
    let now := (← Work.act Act.look).now
    return Submission.make trackingId pipeline.settings.timings.timeout now

/-! ## The verdict -/

/-- The verdict that a status gives, if it is final. -/
def verdictOf : Status → Option Verdict
  | .success => some .success
  | .invalid token => some (.rejected token)
  | .inProgress | .other _ => none

/-- A query as a probe.  Failed and unreadable queries are pending; every status that can be read
is recorded on the submission. -/
def probe (pipeline : Pipeline α) (trackingId : TrackingId) (credential : Credential)
    (_attempt : UInt32) : Call (World α × Submission) ε (Option Verdict) :=
  ExceptT.mk do
    match ← Exchange.beside (pipeline.notary.query trackingId credential).run with
    | .error _ => return .ok none
    | .ok output =>
      match Response.statusToken? output.combined with
      | none => return .ok none
      | some token =>
        let status := Status.read token
        Exchange.own (fun submission => submission.note status)
        return .ok (verdictOf status)

/-- Queries until there is a verdict or the deadline has passed. -/
def watch (pipeline : Pipeline α) (credential : Credential) (submission : Submission) :
    Act (World α) TrustError (Except TrustError (Outcome Verdict) × Submission × Nat) := do
  let session ← Act.look
  let left := submission.remaining session.now
  let (result, watched) ← Act.carrying submission
    (Act.pollToDate ⟨pipeline.settings.timings.pollInterval, left⟩
      (pipeline.probe submission.trackingId credential))
  return (result, watched, left)

/-- What an artifact becomes by the outcome of the wait for its verdict. -/
def conclude (submission : Submission) (waited : Nat) :
    Outcome Verdict → Work α TrustError Unit
  | .ready .success => Work.update (fun artifact => artifact.advance (.verdict .success))
  | .ready (.rejected status) => do
    Work.update (fun artifact => artifact.advance (.verdict (.rejected status)))
    throw (.rejected submission.trackingId status)
  | .ready (.unknown status) => do
    Work.update (fun artifact => artifact.advance (.verdict (.unknown status)))
    throw (.rejected submission.trackingId status)
  | .timedOut .. => do
    let last := (submission.lastStatus.map Status.text).getD "none"
    Work.update (fun artifact => artifact.advance (.verdict (.unknown last)))
    throw (.timeout submission.trackingId waited)
  | .cancelled _ => throw (.cancelled .poll)

/-- Waits for the verdict.  The submission comes back with what was read on it, whether there was
a verdict or not. -/
def await (pipeline : Pipeline α) (submission : Submission) :
    Work α ε (Except TrustError Unit × Submission) := fun artifact session =>
  match pipeline.credential with
  | .error failure => ((.ok (.error failure, submission), artifact), session)
  | .ok credential =>
    match pipeline.watch credential submission session with
    | (.error failure, session) => ((.ok (.error failure, submission), artifact), session)
    | (.ok (.error failure, watched, _), session) =>
      ((.ok (.error failure, watched), artifact), session)
    | (.ok (.ok outcome, watched, waited), session) =>
      let ((result, artifact), session) := conclude watched waited outcome artifact session
      ((.ok (result, watched), artifact), session)

/-! ## The ticket -/

/-- Attaches the ticket to a binary that the authority has accepted. -/
def staple (pipeline : Pipeline α) : Work α TrustError Unit := do
  Work.act (checkToken .staple)
  let artifact ← get
  if artifact.marker ≠ .verdict .success then
    throw (.stageOrder artifact.marker.label Marker.stapled.label)
  Work.act (checkBinary artifact)
  rewrite .staple .stapled (pipeline.notary.staple artifact.path)

/-! ## Whole runs -/

/-- A step whose failure is told together with the step. -/
def inStage (stage : Stage) (step : Work α TrustError β) : Work α (Stage × TrustError) β :=
  ExceptT.adapt (fun failure => (stage, failure)) step

/-- All steps in order.  The archive is removed as soon as it is handed in, or when that fails. -/
def steps (pipeline : Pipeline α) : Work α (Stage × TrustError) Unit := do
  inStage .sign pipeline.sign
  inStage .verify (do Work.act (pipeline.verify (← get)))
  let archive ← inStage .package pipeline.package
  let submission ← Work.always (inStage .submit (pipeline.submit archive)) (FileAct.discard archive)
  let (verdict, _) ← pipeline.await submission
  inStage .poll (Work.ofExcept verdict)
  inStage .staple pipeline.staple

/-- What is checked of the settings and the binary before anything is done. -/
def check (pipeline : Pipeline α) (binary : Path) : Except (Stage × TrustError) Unit := do
  let _ ← pipeline.identity.mapError (fun failure => (.sign, failure))
  let _ ← pipeline.bundleId.mapError (fun failure => (.submit, failure))
  let _ ← pipeline.credential.mapError (fun failure => (.submit, failure))
  let _ ← (distinctArchivePath binary).mapError (fun failure => (.package, failure))

/-- Takes a binary through all steps. -/
def run (pipeline : Pipeline α) (binary : Path) : Act (World α) PipelineFailure Artifact :=
  fun session =>
    match pipeline.check binary with
    | .error (stage, failure) => (.error ⟨stage, none, failure⟩, session)
    | .ok () =>
      match Artifact.track session.world.files binary with
      | .error failure => (.error ⟨.sign, none, failure⟩, session)
      | .ok artifact =>
        match pipeline.steps artifact session with
        | ((.ok (), artifact), session) => (.ok artifact, session)
        | ((.error (stage, failure), artifact), session) =>
          (.error ⟨stage, some artifact, failure⟩, session)

/-! ## Earlier submissions -/

/-- Asks once for the status of a submission. -/
def queryStatus (pipeline : Pipeline α) (trackingId : TrackingId) :
    Act (World α) TrustError Status := do
  let credential ← ExceptT.mk (pure pipeline.credential)
  let output ← ask .poll (pipeline.notary.query trackingId credential)
  let text := output.combined
  match Response.statusToken? text with
  | some token => return Status.read token
  | none => throw (.protocol .poll ("no status in response: " ++ text))

/-- What an adopted artifact becomes by a status, and attaches the ticket if it is accepted. -/
def stapleBy (pipeline : Pipeline α) (trackingId : TrackingId) :
    Status → Work α TrustError Unit
  | .success => do
    Work.update (fun artifact => artifact.advance (.verdict .success))
    pipeline.staple
  | .invalid status => do
    Work.update (fun artifact => artifact.advance (.verdict (.rejected status)))
    throw (.rejected trackingId status)
  | pending => throw (.notApproved trackingId pending.text)

/-- Attaches the ticket to a binary that was submitted earlier, if it has been accepted since. -/
def stapleSubmitted (pipeline : Pipeline α) (binary : Path) (trackingId : TrackingId) :
    Act (World α) TrustError Artifact := do
  let artifact ← ExceptT.mk (pure (Artifact.adopt trackingId (← Act.files) binary))
  let status ← pipeline.queryStatus trackingId
  fun session =>
    match pipeline.stapleBy trackingId status artifact session with
    | ((.ok (), artifact), session) => (.ok artifact, session)
    | ((.error failure, _), session) => (.error failure, session)

end Pipeline

end Steward
