import Mathlib.Control.Monad.Basic
import Steward.Proofs.Session.Journal
import Steward.Proofs.Trust.Waiting

/-!
# The calls of the pipeline

Every request the pipeline makes of its gateways is recorded, with what it was
made with and what came back.  The recorded pipeline takes the same steps with
the same results, so its journal holds the calls that the pipeline makes.
-/

namespace Steward

variable {α ε ε' β γ : Type}

/-- A call of a gateway and its answer. -/
inductive GatewayCall
  /-- A binary is signed. -/
  | sign (binary : Path) (identity : String) (options : SigningOptions)
      (answer : Except ToolError ToolOutput)
  /-- The signature on a binary is checked. -/
  | verify (binary : Path) (answer : Except ToolError ToolOutput)
  /-- A binary is packed. -/
  | package (binary archive : Path) (answer : Except ToolError Unit)
  /-- An archive is handed in. -/
  | submit (archive : Path) (bundleId : String) (credential : Credential)
      (answer : Except ToolError ToolOutput)
  /-- The status of a submission is asked for. -/
  | query (trackingId : TrackingId) (credential : Credential)
      (answer : Except ToolError ToolOutput)
  /-- The ticket is attached to a binary. -/
  | staple (binary : Path) (answer : Except ToolError ToolOutput)
  deriving DecidableEq

namespace GatewayCall

/-- The step that a call belongs to. -/
def stage : GatewayCall → Stage
  | sign .. => .sign
  | verify .. => .verify
  | package .. => .package
  | submit .. => .submit
  | query .. => .poll
  | staple .. => .staple

/-- Whether the tool succeeded. -/
def Succeeded : GatewayCall → Prop
  | sign _ _ _ answer | verify _ answer | submit _ _ _ answer | query _ _ answer
  | staple _ answer => ∃ output, answer = .ok output
  | package _ _ answer => answer = .ok ()

/-- The status that a query has told. -/
def status? : GatewayCall → Option Status
  | query _ _ answer => statusIn answer
  | _ => none

/-- The id that the answer to handing in an archive gives the submission. -/
def trackingId? : GatewayCall → Option TrackingId
  | submit _ _ _ (.ok output) => Response.trackingId? output.combined
  | _ => none

end GatewayCall

namespace Pipeline

/-- The pipeline whose requests are recorded. -/
def recorded (pipeline : Pipeline α) : Pipeline (α × Journal GatewayCall) where
  signer.sign binary identity options :=
    Exchange.recorded (.sign binary identity options) (pipeline.signer.sign binary identity options)
  signer.verify binary := Exchange.recorded (.verify binary) (pipeline.signer.verify binary)
  packager binary archive :=
    Exchange.recorded (.package binary archive) (pipeline.packager binary archive)
  notary.submit archive bundleId credential :=
    Exchange.recorded (.submit archive bundleId credential)
      (pipeline.notary.submit archive bundleId credential)
  notary.query trackingId credential :=
    Exchange.recorded (.query trackingId credential) (pipeline.notary.query trackingId credential)
  notary.staple binary := Exchange.recorded (.staple binary) (pipeline.notary.staple binary)
  settings := pipeline.settings

/-- The calls that a run makes, oldest first. -/
def calls (pipeline : Pipeline α) (binary : Path) (session : Session (World α)) :
    Journal GatewayCall :=
  (pipeline.recorded.run binary session.recording).2.journal

end Pipeline

/-! ## Recording changes nothing else -/

/-- A step that has the same result in a richer world and leaves the same behind. -/
def Work.Refines (forget : World α → World β) (rich : Work α ε γ) (poor : Work β ε γ) : Prop :=
  ∀ artifact session, poor artifact (session.through forget) =
    ((rich artifact session).1, (rich artifact session).2.through forget)

namespace Work.Refines

variable {β' : Type} {forget : World α → World β}

theorem pure (value : γ) : Work.Refines forget (pure value : Work α ε γ) (pure value) :=
  fun _ _ => rfl

theorem throw (failure : ε) :
    Work.Refines forget (throw failure : Work α ε γ) (throw failure) :=
  fun _ _ => rfl

theorem get : Work.Refines forget (get : Work α ε Artifact) get :=
  fun _ _ => rfl

theorem bind {rich : Work α ε γ} {poor : Work β ε γ} {next : γ → Work α ε β'}
    {next' : γ → Work β ε β'} (first : Work.Refines forget rich poor)
    (second : ∀ value, Work.Refines forget (next value) (next' value)) :
    Work.Refines forget (rich >>= next) (poor >>= next') := by
  intro artifact session
  rw [Work.bind_apply, Work.bind_apply, first artifact session]
  rcases rich artifact session with ⟨⟨failure | value, reached⟩, after⟩
  · rfl
  · exact second value reached after

theorem ite {condition : Prop} [Decidable condition] {rich rich' : Work α ε γ}
    {poor poor' : Work β ε γ} (positive : Work.Refines forget rich poor)
    (negative : Work.Refines forget rich' poor') :
    Work.Refines forget (if condition then rich else rich')
      (if condition then poor else poor') := by
  split
  · exact positive
  · exact negative

theorem act {rich : Act (World α) ε γ} {poor : Act (World β) ε γ}
    (refines : Act.Refines forget rich poor) :
    Work.Refines forget (Work.act rich) (Work.act poor) := by
  intro artifact session
  rw [Work.act_apply, Work.act_apply, refines session]

theorem ofExcept (result : Except ε γ) :
    Work.Refines forget (Work.ofExcept result) (Work.ofExcept result) :=
  fun _ _ => rfl

theorem update (step : Artifact → Except ε Artifact) :
    Work.Refines forget (Work.update step) (Work.update step) := by
  intro artifact session
  rw [Work.update_apply, Work.update_apply]
  cases step artifact <;> rfl

/-- What is done next may depend on the session as far as the poorer world shows it. -/
theorem look {next : Session (World α) → Work α ε γ} {next' : Session (World β) → Work β ε γ}
    (second : ∀ session, Work.Refines forget (next session) (next' (session.through forget))) :
    Work.Refines forget (Work.act Act.look >>= next) (Work.act Act.look >>= next') :=
  fun artifact session => second session artifact session

theorem inStage {rich : Work α TrustError γ} {poor : Work β TrustError γ} (stage : Stage)
    (refines : Work.Refines forget rich poor) :
    Work.Refines forget (Pipeline.inStage stage rich) (Pipeline.inStage stage poor) := by
  intro artifact session
  rw [Work.inStage_apply, Work.inStage_apply, refines artifact session]

end Work.Refines

section Unrecorded

variable {κ : Type}

theorem Act.Refines.ask {request : Call (World (α × Journal κ)) ToolError γ}
    {request' : Call (World α) ToolError γ} (stage : Stage)
    (refines : Exchange.Refines World.unrecorded request request') :
    Act.Refines World.unrecorded (Pipeline.ask stage request) (Pipeline.ask stage request') := by
  intro session
  rw [Pipeline.ask_apply, Pipeline.ask_apply, Session.exchange_through refines]

theorem Act.Refines.checkToken (stage : Stage) :
    Act.Refines (World.unrecorded (α := α) (κ := κ)) (Pipeline.checkToken stage)
      (Pipeline.checkToken stage) :=
  .bind .isCancelled fun _ => .ite (.throw _) (.pure _)

theorem Act.Refines.checkBinary (artifact : Artifact) :
    Act.Refines (World.unrecorded (α := α) (κ := κ)) (Pipeline.checkBinary artifact)
      (Pipeline.checkBinary artifact) :=
  .bind .files fun _ => .ite (.throw _) (.pure _)

theorem Session.discarding_through (session : Session (World (α × Journal κ))) (path : Path) :
    (session.through World.unrecorded).discarding path =
      (session.discarding path).through World.unrecorded :=
  rfl

@[simp]
theorem Session.journal_discarding (session : Session (World (α × Journal κ))) (path : Path) :
    (session.discarding path).journal = session.journal :=
  rfl

theorem Work.Refines.always {rich : Work (α × Journal κ) ε γ} {poor : Work α ε γ}
    (refines : Work.Refines World.unrecorded rich poor) (path : Path) :
    Work.Refines World.unrecorded (Work.always rich (FileAct.discard path))
      (Work.always poor (FileAct.discard path)) := by
  intro artifact session
  rw [Work.always_apply, Work.always_apply, refines artifact session, Session.discarding_through]

theorem Work.Refines.onFailure {rich : Work (α × Journal κ) ε γ} {poor : Work α ε γ}
    (refines : Work.Refines World.unrecorded rich poor) (path : Path) :
    Work.Refines World.unrecorded (Work.onFailure rich (FileAct.discard path))
      (Work.onFailure poor (FileAct.discard path)) := by
  intro artifact session
  rw [Work.onFailure_apply, Work.onFailure_apply, refines artifact session]
  rcases rich artifact session with ⟨⟨failure | value, reached⟩, after⟩ <;> rfl

end Unrecorded

namespace Pipeline

variable (pipeline : Pipeline α)

theorem rewrite_refines {request : Call (World (α × Journal GatewayCall)) ToolError ToolOutput}
    {request' : Call (World α) ToolError ToolOutput} (stage : Stage) (next : Marker)
    (refines : Exchange.Refines World.unrecorded request request') :
    Work.Refines World.unrecorded (rewrite stage next request) (rewrite stage next request') :=
  .bind (.act (.ask stage refines)) fun _ =>
    .bind (.update _) fun _ => .bind (.act .files) fun _ => .update _

theorem sign_refines : Work.Refines World.unrecorded pipeline.recorded.sign pipeline.sign :=
  .bind (.act (.checkToken _)) fun _ => .bind (.ofExcept _) fun _ => .bind .get fun _ =>
    .bind (.act (.checkBinary _)) fun _ => rewrite_refines _ _ (Exchange.recorded_refines _ _)

theorem verify_refines (artifact : Artifact) :
    Act.Refines World.unrecorded (pipeline.recorded.verify artifact)
      (pipeline.verify artifact) := by
  apply Act.Refines.bind (.checkToken _)
  intro _
  apply Act.Refines.bind (.checkBinary _)
  intro _
  apply Act.Refines.bind (.attempt (Exchange.recorded_refines _ _))
  intro answer
  cases answer with
  | ok output => exact .pure _
  | error cause => exact .ite (.throw _) (.throw _)

theorem pack_refines (archive : Path) :
    Work.Refines World.unrecorded (pipeline.recorded.pack archive) (pipeline.pack archive) :=
  .bind .get fun _ => .bind (.act (.ask _ (Exchange.recorded_refines _ _))) fun _ =>
    .bind (.act .files) fun _ => .ite (.throw _) (.update _)

theorem package_refines :
    Work.Refines World.unrecorded pipeline.recorded.package pipeline.package :=
  .bind (.act (.checkToken _)) fun _ => .bind .get fun _ => .bind (.act (.checkBinary _)) fun _ =>
    .bind (.ofExcept _) fun archive => .bind (.act (.onFiles _)) fun _ =>
      .bind (.onFailure (pipeline.pack_refines archive) archive) fun _ => .pure _

theorem submit_refines (archive : Path) :
    Work.Refines World.unrecorded (pipeline.recorded.submit archive)
      (pipeline.submit archive) := by
  apply Work.Refines.bind (.act (.checkToken _))
  intro _
  apply Work.Refines.bind (.ofExcept _)
  intro bundleId
  apply Work.Refines.bind (.ofExcept _)
  intro credential
  apply Work.Refines.bind (.act (.ask _ (Exchange.recorded_refines _ _)))
  intro output
  dsimp only
  cases Response.trackingId? output.combined with
  | none => exact .throw _
  | some trackingId => exact .bind (.update _) fun _ => .look fun _ => .pure _

theorem probe_refines (trackingId : TrackingId) (credential : Credential) (attempt : UInt32) :
    Exchange.Refines (Prod.map World.unrecorded id)
      (pipeline.recorded.probe (ε := ε) trackingId credential attempt)
      (pipeline.probe trackingId credential attempt) := by
  apply Exchange.Refines.bind (.beside (Exchange.recorded_refines _ _))
  intro answer
  cases answer with
  | error cause => exact .pure _
  | ok output =>
    dsimp only
    cases Response.statusToken? output.combined with
    | none => exact .pure _
    | some token => exact .bind (.own _) fun _ => .pure _

theorem watch_refines (credential : Credential) (submission : Submission) :
    Act.Refines World.unrecorded (pipeline.recorded.watch credential submission)
      (pipeline.watch credential submission) := by
  refine .look fun session => .bind (β := Except TrustError (Outcome Verdict) × Submission)
    (.carrying submission
      (.pollToDate (pipeline.probe_refines submission.trackingId credential) _)) fun answer => ?_
  exact .pure _

theorem conclude_refines (submission : Submission) (waited : Nat) (outcome : Outcome Verdict) :
    Work.Refines (World.unrecorded (α := α) (κ := GatewayCall))
      (conclude submission waited outcome) (conclude submission waited outcome) :=
  match outcome with
  | .ready .success => .update _
  | .ready (.rejected _) => .bind (.update _) fun _ => .throw _
  | .ready (.unknown _) => .bind (.update _) fun _ => .throw _
  | .timedOut .. => .bind (.update _) fun _ => .throw _
  | .cancelled _ => .throw _

theorem await_refines (submission : Submission) :
    Work.Refines World.unrecorded (pipeline.recorded.await (ε := ε) submission)
      (pipeline.await submission) := by
  intro artifact session
  simp only [await, show pipeline.recorded.credential = pipeline.credential from rfl]
  cases pipeline.credential with
  | error failure => rfl
  | ok credential =>
    dsimp only
    rw [pipeline.watch_refines credential submission session]
    rcases pipeline.recorded.watch credential submission session with
      ⟨failure | ⟨failure | outcome, watched, waited⟩, after⟩
    · rfl
    · rfl
    · dsimp only
      rw [conclude_refines watched waited outcome artifact after]
      rfl

theorem staple_refines :
    Work.Refines World.unrecorded pipeline.recorded.staple pipeline.staple :=
  .bind (.act (.checkToken _)) fun _ => .bind .get fun _ => .ite (.throw _) <|
    .bind (.act (.checkBinary _)) fun _ => rewrite_refines _ _ (Exchange.recorded_refines _ _)

theorem steps_refines : Work.Refines World.unrecorded pipeline.recorded.steps pipeline.steps :=
  .bind (.inStage _ pipeline.sign_refines) fun _ =>
    .bind (.inStage _ (.bind .get fun artifact => .act (pipeline.verify_refines artifact)))
      fun _ => .bind (.inStage _ pipeline.package_refines) fun archive =>
        .bind (.always (.inStage _ (pipeline.submit_refines archive)) archive) fun submission =>
          .bind (pipeline.await_refines submission) fun _ =>
            .bind (.inStage _ (.ofExcept _)) fun _ => .inStage _ pipeline.staple_refines

/-- A recorded run has the same result and leaves the same session behind. -/
theorem run_refines (binary : Path) :
    Act.Refines World.unrecorded (pipeline.recorded.run binary) (pipeline.run binary) := by
  intro session
  simp only [run, show pipeline.recorded.check binary = pipeline.check binary from rfl]
  cases pipeline.check binary with
  | error failure => rfl
  | ok _ =>
    dsimp only
    rw [show (session.through World.unrecorded).world.files = session.world.files from rfl]
    cases Artifact.track session.world.files binary with
    | error failure => rfl
    | ok artifact =>
      dsimp only
      rw [pipeline.steps_refines artifact session]
      rcases pipeline.recorded.steps artifact session with ⟨⟨⟨stage, failure⟩ | _, reached⟩, after⟩
        <;> rfl

/-- A run is the recorded run without its journal. -/
theorem run_eq_recorded (binary : Path) (session : Session (World α)) :
    pipeline.run binary session =
      ((pipeline.recorded.run binary session.recording).1,
        (pipeline.recorded.run binary session.recording).2.through World.unrecorded) :=
  pipeline.run_refines binary session.recording

theorem files_through (session : Session (World (α × Journal GatewayCall))) :
    (session.through World.unrecorded).world.files = session.world.files :=
  rfl

/-- A run leaves the files that the recorded run leaves. -/
theorem files_run (binary : Path) (session : Session (World α)) :
    (pipeline.run binary session).2.world.files =
      (pipeline.recorded.run binary session.recording).2.world.files := by
  rw [run_eq_recorded, files_through]

/-! ## Queries in a journal -/

/-- A probe of a recorded wait asks one query, whose answer tells what the probe gives. -/
theorem journal_probed (trackingId : TrackingId) (credential : Credential) (attempts : UInt32)
    (session : Session (World (α × Journal GatewayCall) × Submission)) :
    ∃ answer files later,
      (Session.probed (pipeline.recorded.probe (ε := TrustError) trackingId credential) attempts
          session).unloaded.journal =
        session.unloaded.journal ++ [⟨.query trackingId credential answer, files, later⟩] ∧
      (session.exchange
          (pipeline.recorded.probe (ε := TrustError) trackingId credential (attempts + 1))).1 =
        .ok ((statusIn answer).bind verdictOf) := by
  rw [Session.probed, exchange_probe]
  exact ⟨_, _, _, Session.journal_exchange _ _ _, rfl⟩

end Pipeline

end Steward
