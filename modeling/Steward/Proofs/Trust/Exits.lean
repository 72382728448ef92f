import Steward.Proofs.Trust.Running

/-!
# The ways out of each step

Every step of the pipeline ends in one of a few ways: it stops before its tool
is called, the tool fails, the marker is refused, the binary cannot be read
again, or the step is done.  For each step an inductive predicate lists them
with everything that was checked on the way, and one theorem says that there
are no others.
-/

namespace Steward

variable {α : Type}

/-- The result of a step with the artifact and the session that it leaves. -/
abbrev Left (α β : Type) := (Except TrustError β × Artifact) × Session (World α)

namespace Pipeline

/-- What most steps check before they do anything. -/
structure Ready (artifact : Artifact) (session : Session (World α)) : Prop where
  /-- The token has not fired. -/
  live : session.isCancelled = false
  /-- The binary is there. -/
  present : session.world.files.isFile artifact.path = true

/-! ## Tools that rewrite the binary -/

/-- How a step ends from the call of a tool that rewrites the binary. -/
inductive Rewriting (stage : Stage) (next : Marker)
    (request : Call (World α) ToolError ToolOutput) (artifact : Artifact)
    (session : Session (World α)) : Left α Unit → Prop
  | refused {cause : ToolError} {after : Session (World α)}
      (answer : session.exchange request = (.error cause, after)) :
      Rewriting stage next request artifact session
        ((.error (.gateway stage cause), artifact), after)
  | disordered {output : ToolOutput} {after : Session (World α)} {failure : TrustError}
      (answer : session.exchange request = (.ok output, after))
      (disordered : artifact.advance next = .error failure) :
      Rewriting stage next request artifact session ((.error failure, artifact), after)
  | unreadable {output : ToolOutput} {after : Session (World α)} {reached : Artifact}
      {failure : TrustError} (answer : session.exchange request = (.ok output, after))
      (advanced : artifact.advance next = .ok reached)
      (unreadable : reached.refresh after.world.files = .error failure) :
      Rewriting stage next request artifact session ((.error failure, reached), after)
  | done {output : ToolOutput} {after : Session (World α)} {reached refreshed : Artifact}
      (answer : session.exchange request = (.ok output, after))
      (advanced : artifact.advance next = .ok reached)
      (reread : reached.refresh after.world.files = .ok refreshed) :
      Rewriting stage next request artifact session ((.ok (), refreshed), after)

theorem rewrite_ends (stage : Stage) (next : Marker)
    (request : Call (World α) ToolError ToolOutput) (artifact : Artifact)
    (session : Session (World α)) :
    Rewriting stage next request artifact session
      (rewrite stage next request artifact session) := by
  simp only [rewrite, Work.bind_apply, Work.act_apply, Work.update_apply, ask_apply,
    refresh_apply]
  rcases answer : session.exchange request with ⟨cause | output, after⟩
  · exact .refused answer
  · dsimp only [Except.mapError_ok]
    cases advanced : artifact.advance next with
    | error failure => exact .disordered answer advanced
    | ok reached =>
      dsimp only
      cases reread : reached.refresh after.world.files with
      | error failure => exact .unreadable answer advanced reread
      | ok refreshed => exact .done answer advanced reread

/-! ## Signing -/

/-- How signing ends. -/
inductive Signing (pipeline : Pipeline α) (artifact : Artifact) (session : Session (World α)) :
    Left α Unit → Prop
  | cancelled (fired : session.isCancelled = true) :
      Signing pipeline artifact session ((.error (.cancelled .sign), artifact), session)
  | unnamed {failure : TrustError} (live : session.isCancelled = false)
      (unnamed : pipeline.identity = .error failure) :
      Signing pipeline artifact session ((.error failure, artifact), session)
  | missing (live : session.isCancelled = false)
      (missing : session.world.files.isFile artifact.path = false) :
      Signing pipeline artifact session ((.error (.notFound artifact.path), artifact), session)
  | called {identity : String} {left : Left α Unit} (ready : Ready artifact session)
      (named : pipeline.identity = .ok identity)
      (rewriting : Rewriting .sign .signed
        (pipeline.signer.sign artifact.path identity pipeline.settings.signing)
        artifact session left) :
      Signing pipeline artifact session left

theorem sign_ends (pipeline : Pipeline α) (artifact : Artifact) (session : Session (World α)) :
    Signing pipeline artifact session (pipeline.sign artifact session) := by
  simp only [sign, Work.bind_apply, Work.act_apply, Work.get_apply, Work.ofExcept_apply,
    checkToken_apply, checkBinary_apply]
  cases fired : session.isCancelled with
  | true => exact .cancelled fired
  | false =>
    cases named : pipeline.identity with
    | error failure => exact .unnamed fired named
    | ok identity =>
      dsimp only
      cases present : session.world.files.isFile artifact.path with
      | false => exact .missing fired present
      | true => exact .called ⟨fired, present⟩ named (rewrite_ends ..)

/-! ## Checking the signature -/

/-- What a signature that does not hold means for an artifact. -/
def brokenSignature (artifact : Artifact) (cause : ToolError) : TrustError :=
  if artifact.marker = .signed then .inconsistentState artifact.path cause.diagnostic
  else .gateway .verify cause

/-- How the check of the signature ends. -/
inductive Verifying (pipeline : Pipeline α) (artifact : Artifact)
    (session : Session (World α)) : Except TrustError Unit × Session (World α) → Prop
  | cancelled (fired : session.isCancelled = true) :
      Verifying pipeline artifact session (.error (.cancelled .verify), session)
  | missing (live : session.isCancelled = false)
      (missing : session.world.files.isFile artifact.path = false) :
      Verifying pipeline artifact session (.error (.notFound artifact.path), session)
  | refused {cause : ToolError} {after : Session (World α)} (ready : Ready artifact session)
      (answer : session.exchange (pipeline.signer.verify artifact.path) = (.error cause, after)) :
      Verifying pipeline artifact session (.error (brokenSignature artifact cause), after)
  | done {output : ToolOutput} {after : Session (World α)} (ready : Ready artifact session)
      (answer : session.exchange (pipeline.signer.verify artifact.path) = (.ok output, after)) :
      Verifying pipeline artifact session (.ok (), after)

theorem verify_ends (pipeline : Pipeline α) (artifact : Artifact) (session : Session (World α)) :
    Verifying pipeline artifact session (pipeline.verify artifact session) := by
  simp only [verify, Act.bind_apply, checkToken_apply, checkBinary_apply, Act.attempt_apply]
  cases fired : session.isCancelled with
  | true => exact .cancelled fired
  | false =>
    dsimp only
    cases present : session.world.files.isFile artifact.path with
    | false => exact .missing fired present
    | true =>
      dsimp only
      rcases answer : session.exchange (pipeline.signer.verify artifact.path) with
        ⟨cause | output, after⟩
      · have broken : Verifying pipeline artifact session
            (.error (brokenSignature artifact cause), after) := .refused ⟨fired, present⟩ answer
        dsimp only
        unfold brokenSignature at broken
        split <;> simp_all
      · exact .done ⟨fired, present⟩ answer

/-! ## Packing -/

/-- How packing into a claimed archive ends. -/
inductive Packing (pipeline : Pipeline α) (archive : Path) (artifact : Artifact)
    (session : Session (World α)) : Left α Unit → Prop
  | refused {cause : ToolError} {after : Session (World α)}
      (answer : session.exchange (pipeline.packager artifact.path archive) =
        (.error cause, after)) :
      Packing pipeline archive artifact session
        ((.error (.gateway .package cause), artifact), after)
  | unwritten {after : Session (World α)}
      (answer : session.exchange (pipeline.packager artifact.path archive) = (.ok (), after))
      (unwritten : after.world.files.isFile archive = false) :
      Packing pipeline archive artifact session
        ((.error (.protocol .package ("no archive written at " ++ archive.text)), artifact), after)
  | disordered {after : Session (World α)} {failure : TrustError}
      (answer : session.exchange (pipeline.packager artifact.path archive) = (.ok (), after))
      (written : after.world.files.isFile archive = true)
      (disordered : artifact.advance (.packaged archive) = .error failure) :
      Packing pipeline archive artifact session ((.error failure, artifact), after)
  | done {after : Session (World α)} {packaged : Artifact}
      (answer : session.exchange (pipeline.packager artifact.path archive) = (.ok (), after))
      (written : after.world.files.isFile archive = true)
      (advanced : artifact.advance (.packaged archive) = .ok packaged) :
      Packing pipeline archive artifact session ((.ok (), packaged), after)

theorem pack_ends (pipeline : Pipeline α) (archive : Path) (artifact : Artifact)
    (session : Session (World α)) :
    Packing pipeline archive artifact session (pipeline.pack archive artifact session) := by
  simp only [pack, Work.bind_apply, Work.act_apply, Work.get_apply, ask_apply, Act.files_apply]
  rcases answer : session.exchange (pipeline.packager artifact.path archive) with
    ⟨cause | _, after⟩
  · exact .refused answer
  · dsimp only [Except.mapError_ok]
    cases written : after.world.files.isFile archive with
    | false => exact .unwritten answer written
    | true =>
      simp only [Bool.not_true, Bool.false_eq_true, if_false, Work.update_apply]
      cases advanced : artifact.advance (.packaged archive) with
      | error failure => exact .disordered answer written advanced
      | ok packaged => exact .done answer written advanced

/-- How packaging ends: before the path of the archive is claimed, because it cannot be claimed,
or as packing into it ends. -/
inductive Packaging (pipeline : Pipeline α) (artifact : Artifact)
    (session : Session (World α)) : Left α Path → Prop
  | cancelled (fired : session.isCancelled = true) :
      Packaging pipeline artifact session ((.error (.cancelled .package), artifact), session)
  | missing (live : session.isCancelled = false)
      (missing : session.world.files.isFile artifact.path = false) :
      Packaging pipeline artifact session ((.error (.notFound artifact.path), artifact), session)
  | sameFile {failure : TrustError} (ready : Ready artifact session)
      (same : distinctArchivePath artifact.path = .error failure) :
      Packaging pipeline artifact session ((.error failure, artifact), session)
  | unclaimed {archive : Path} {failure : TrustError} (ready : Ready artifact session)
      (distinct : distinctArchivePath artifact.path = .ok archive)
      (unclaimed : (claim archive session.world.files).1 = .error failure) :
      Packaging pipeline artifact session
        ((.error failure, artifact), session.discarding archive)
  | failed {archive : Path} {failure : TrustError} {reached : Artifact}
      {after : Session (World α)} (ready : Ready artifact session)
      (distinct : distinctArchivePath artifact.path = .ok archive)
      (claimed : (claim archive session.world.files).1 = .ok ())
      (packing : Packing pipeline archive artifact (session.discarding archive)
        ((.error failure, reached), after)) :
      Packaging pipeline artifact session
        ((.error failure, reached), after.discarding archive)
  | done {archive : Path} {reached : Artifact} {after : Session (World α)}
      (ready : Ready artifact session)
      (distinct : distinctArchivePath artifact.path = .ok archive)
      (claimed : (claim archive session.world.files).1 = .ok ())
      (packing : Packing pipeline archive artifact (session.discarding archive)
        ((.ok (), reached), after)) :
      Packaging pipeline artifact session ((.ok archive, reached), after)

theorem package_ends (pipeline : Pipeline α) (artifact : Artifact)
    (session : Session (World α)) :
    Packaging pipeline artifact session (pipeline.package artifact session) := by
  simp only [package, Work.bind_apply, Work.act_apply, Work.get_apply, Work.ofExcept_apply,
    Work.onFailure_apply, Work.pure_apply, checkToken_apply, checkBinary_apply,
    Act.onFiles_apply]
  cases fired : session.isCancelled with
  | true => exact .cancelled fired
  | false =>
    dsimp only
    cases present : session.world.files.isFile artifact.path with
    | false => exact .missing fired present
    | true =>
      have ready : Ready artifact session := ⟨fired, present⟩
      dsimp only
      cases distinct : distinctArchivePath artifact.path with
      | error failure => exact .sameFile ready distinct
      | ok archive =>
        have files : (claim archive session.world.files).2 =
            session.world.files.discarded archive := by rw [claim_apply]
        dsimp only
        rw [files]
        cases claimed : (claim archive session.world.files).1 with
        | error failure => exact .unclaimed ready distinct claimed
        | ok _ =>
          have packing := pack_ends pipeline archive artifact (session.discarding archive)
          dsimp only
          rcases packed : pipeline.pack archive artifact (session.discarding archive) with
            ⟨⟨failure | _, reached⟩, after⟩
          · rw [packed] at packing
            rw [show session.withFiles (session.world.files.discarded archive) =
              session.discarding archive from rfl, packed]
            exact .failed ready distinct claimed packing
          · rw [packed] at packing
            rw [show session.withFiles (session.world.files.discarded archive) =
              session.discarding archive from rfl, packed]
            exact .done ready distinct claimed packing

/-! ## Handing in -/

/-- How handing in the archive ends. -/
inductive Submitting (pipeline : Pipeline α) (archive : Path) (artifact : Artifact)
    (session : Session (World α)) : Left α Submission → Prop
  | cancelled (fired : session.isCancelled = true) :
      Submitting pipeline archive artifact session
        ((.error (.cancelled .submit), artifact), session)
  | unnamed {failure : TrustError} (live : session.isCancelled = false)
      (unnamed : pipeline.bundleId = .error failure) :
      Submitting pipeline archive artifact session ((.error failure, artifact), session)
  | uncredentialed {failure : TrustError} (live : session.isCancelled = false)
      (uncredentialed : pipeline.credential = .error failure) :
      Submitting pipeline archive artifact session ((.error failure, artifact), session)
  | refused {bundleId : String} {credential : Credential} {cause : ToolError}
      {after : Session (World α)} (live : session.isCancelled = false)
      (named : pipeline.bundleId = .ok bundleId)
      (credentialed : pipeline.credential = .ok credential)
      (answer : session.exchange (pipeline.notary.submit archive bundleId credential) =
        (.error cause, after)) :
      Submitting pipeline archive artifact session
        ((.error (.gateway .submit cause), artifact), after)
  | unreadable {bundleId : String} {credential : Credential} {output : ToolOutput}
      {after : Session (World α)} (live : session.isCancelled = false)
      (named : pipeline.bundleId = .ok bundleId)
      (credentialed : pipeline.credential = .ok credential)
      (answer : session.exchange (pipeline.notary.submit archive bundleId credential) =
        (.ok output, after))
      (unreadable : Response.trackingId? output.combined = none) :
      Submitting pipeline archive artifact session
        ((.error (.protocol .submit ("no submission id in response: " ++ output.combined)),
          artifact), after)
  | disordered {bundleId : String} {credential : Credential} {output : ToolOutput}
      {after : Session (World α)} {trackingId : TrackingId} {failure : TrustError}
      (live : session.isCancelled = false) (named : pipeline.bundleId = .ok bundleId)
      (credentialed : pipeline.credential = .ok credential)
      (answer : session.exchange (pipeline.notary.submit archive bundleId credential) =
        (.ok output, after))
      (tracked : Response.trackingId? output.combined = some trackingId)
      (disordered : artifact.advance (.submitted trackingId) = .error failure) :
      Submitting pipeline archive artifact session ((.error failure, artifact), after)
  | done {bundleId : String} {credential : Credential} {output : ToolOutput}
      {after : Session (World α)} {trackingId : TrackingId} {submitted : Artifact}
      (live : session.isCancelled = false) (named : pipeline.bundleId = .ok bundleId)
      (credentialed : pipeline.credential = .ok credential)
      (answer : session.exchange (pipeline.notary.submit archive bundleId credential) =
        (.ok output, after))
      (tracked : Response.trackingId? output.combined = some trackingId)
      (advanced : artifact.advance (.submitted trackingId) = .ok submitted) :
      Submitting pipeline archive artifact session
        ((.ok (Submission.make trackingId pipeline.settings.timings.timeout after.now),
          submitted), after)

theorem submit_ends (pipeline : Pipeline α) (archive : Path) (artifact : Artifact)
    (session : Session (World α)) :
    Submitting pipeline archive artifact session (pipeline.submit archive artifact session) := by
  simp only [submit, Work.bind_apply, Work.act_apply, Work.ofExcept_apply, checkToken_apply,
    ask_apply]
  cases fired : session.isCancelled with
  | true => exact .cancelled fired
  | false =>
    cases named : pipeline.bundleId with
    | error failure => exact .unnamed fired named
    | ok bundleId =>
      cases credentialed : pipeline.credential with
      | error failure => exact .uncredentialed fired credentialed
      | ok credential =>
        dsimp only
        rcases answer : session.exchange (pipeline.notary.submit archive bundleId credential) with
          ⟨cause | output, after⟩
        · exact .refused fired named credentialed answer
        · dsimp only [Except.mapError_ok]
          cases tracked : Response.trackingId? output.combined with
          | none => exact .unreadable fired named credentialed answer tracked
          | some trackingId =>
            simp only [Work.bind_apply, Work.update_apply, Work.act_apply, Act.look_apply,
              Work.pure_apply]
            cases advanced : artifact.advance (.submitted trackingId) with
            | error failure =>
                exact .disordered fired named credentialed answer tracked advanced
            | ok submitted => exact .done fired named credentialed answer tracked advanced

/-! ## Attaching the ticket -/

/-- How attaching the ticket ends. -/
inductive Stapling (pipeline : Pipeline α) (artifact : Artifact) (session : Session (World α)) :
    Left α Unit → Prop
  | cancelled (fired : session.isCancelled = true) :
      Stapling pipeline artifact session ((.error (.cancelled .staple), artifact), session)
  | unaccepted (live : session.isCancelled = false)
      (unaccepted : artifact.marker ≠ .verdict .success) :
      Stapling pipeline artifact session
        ((.error (.stageOrder artifact.marker.label Marker.stapled.label), artifact), session)
  | missing (live : session.isCancelled = false)
      (accepted : artifact.marker = .verdict .success)
      (missing : session.world.files.isFile artifact.path = false) :
      Stapling pipeline artifact session ((.error (.notFound artifact.path), artifact), session)
  | called {left : Left α Unit} (ready : Ready artifact session)
      (accepted : artifact.marker = .verdict .success)
      (rewriting : Rewriting .staple .stapled (pipeline.notary.staple artifact.path)
        artifact session left) :
      Stapling pipeline artifact session left

theorem staple_ends (pipeline : Pipeline α) (artifact : Artifact) (session : Session (World α)) :
    Stapling pipeline artifact session (pipeline.staple artifact session) := by
  simp only [staple, Work.bind_apply, Work.act_apply, Work.get_apply, checkToken_apply]
  cases fired : session.isCancelled with
  | true => exact .cancelled fired
  | false =>
    dsimp only
    by_cases accepted : artifact.marker = .verdict .success
    · rw [if_neg (not_not_intro accepted)]
      simp only [Work.bind_apply, Work.act_apply, checkBinary_apply]
      cases present : session.world.files.isFile artifact.path with
      | false => exact .missing fired accepted present
      | true => exact .called ⟨fired, present⟩ accepted (rewrite_ends ..)
    · rw [if_pos accepted]
      exact .unaccepted fired accepted

/-! ## Whole runs -/

/-- How a run ends: with a failure of what is checked first, or as its steps end. -/
inductive Running (pipeline : Pipeline α) (binary : Path) (session : Session (World α)) :
    Except PipelineFailure Artifact × Session (World α) → Prop
  | unprepared {stage : Stage} {failure : TrustError}
      (checked : pipeline.check binary = .error (stage, failure)) :
      Running pipeline binary session (.error ⟨stage, none, failure⟩, session)
  | unopened {failure : TrustError} (checked : pipeline.check binary = .ok ())
      (opened : Artifact.track session.world.files binary = .error failure) :
      Running pipeline binary session (.error ⟨.sign, none, failure⟩, session)
  | failed {artifact reached : Artifact} {stage : Stage} {failure : TrustError}
      {after : Session (World α)} (checked : pipeline.check binary = .ok ())
      (opened : Artifact.track session.world.files binary = .ok artifact)
      (stopped : pipeline.steps artifact session = ((.error (stage, failure), reached), after)) :
      Running pipeline binary session (.error ⟨stage, some reached, failure⟩, after)
  | done {artifact reached : Artifact} {after : Session (World α)}
      (checked : pipeline.check binary = .ok ())
      (opened : Artifact.track session.world.files binary = .ok artifact)
      (finished : pipeline.steps artifact session = ((.ok (), reached), after)) :
      Running pipeline binary session (.ok reached, after)

theorem run_ends (pipeline : Pipeline α) (binary : Path) (session : Session (World α)) :
    Running pipeline binary session (pipeline.run binary session) := by
  rw [run]
  cases checked : pipeline.check binary with
  | error failure => exact .unprepared checked
  | ok _ =>
    dsimp only
    cases opened : Artifact.track session.world.files binary with
    | error failure => exact .unopened checked opened
    | ok artifact =>
      dsimp only
      rcases ended : pipeline.steps artifact session with ⟨⟨⟨stage, failure⟩ | _, reached⟩, after⟩
      · exact .failed checked opened ended
      · exact .done checked opened ended

theorem Running.run_eq {pipeline : Pipeline α} {binary : Path} {session : Session (World α)}
    {left : Except PipelineFailure Artifact × Session (World α)}
    (running : Running pipeline binary session left) : pipeline.run binary session = left := by
  rw [run]
  cases running with
  | unprepared checked => rw [checked]
  | unopened checked opened =>
    rw [checked]
    dsimp only
    rw [opened]
  | failed checked opened ended | done checked opened ended =>
    rw [checked]
    dsimp only
    rw [opened]
    dsimp only
    rw [ended]

end Pipeline

end Steward
