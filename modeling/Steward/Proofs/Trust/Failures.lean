import Steward.Proofs.Trust.Archive

/-!
# Runs that fail

A run that has opened its binary and then fails gives back the artifact as it
was before the step that failed: with the marker of the step before, with the
digest of the binary as it was opened or signed, and with an error of that
step.  A tool that succeeds and leaves a binary that cannot be read is the
exception: the marker of its own step is there already when the digest is
taken.
-/

namespace Steward

variable {α : Type}

namespace TrustError

/-- The step that an error names. -/
def stage? : TrustError → Option Stage
  | gateway stage _ | protocol stage _ | cancelled stage => some stage
  | _ => none

/-- An error names no step but one. -/
def NamesOnly (failure : TrustError) (stage : Stage) : Prop :=
  ∀ other, failure.stage? = some other → other = stage

theorem NamesOnly.of_none {failure : TrustError} {stage : Stage} (unnamed : failure.stage? = none) :
    failure.NamesOnly stage := by
  intro other told
  rw [unnamed] at told
  cases told

theorem NamesOnly.of_some {failure : TrustError} {stage : Stage}
    (named : failure.stage? = some stage) : failure.NamesOnly stage :=
  fun _ told => Option.some.inj (told.symm.trans named)

/-- An error comes of what the pipeline checks itself: the settings, the binary and its archive, and
the order of the steps. -/
def IsOwn : TrustError → Prop
  | configuration _ | notFound _ | io _ _ | stageOrder _ _ => True
  | _ => False

theorem IsOwn.namesOnly {failure : TrustError} (own : failure.IsOwn) (stage : Stage) :
    failure.NamesOnly stage := by
  apply NamesOnly.of_none
  cases failure with
  | configuration | notFound | io | stageOrder => rfl
  | _ => exact own.elim

end TrustError

namespace Pipeline

/-! ## Where a failed run stands -/

/-- The last marker of an artifact on which a step has failed. -/
inductive StandsBefore : Stage → Marker → Prop
  | sign : StandsBefore .sign .unsigned
  | verify : StandsBefore .verify .signed
  | package : StandsBefore .package .signed
  | submit {archive : Path} : StandsBefore .submit (.packaged archive)
  | poll {trackingId : TrackingId} : StandsBefore .poll (.submitted trackingId)
  | rejected {status : String} : StandsBefore .poll (.verdict (.rejected status))
  | unknown {status : String} : StandsBefore .poll (.verdict (.unknown status))
  | staple : StandsBefore .staple (.verdict .success)

/-- The binary had a digest when it had been signed. -/
def SignedAs (binary : Path) (journal : Journal GatewayCall) (sha256 : String) : Prop :=
  ∃ line ∈ journal, line.call.stage = .sign ∧ line.call.Succeeded ∧
    Artifact.contentHash line.after binary = .ok sha256

/-- The binary had a digest when it was opened, for a run that stops at signing, or else when it had
been signed. -/
def Digested (binary : Path) (origin : FileSystem) (stage : Stage) (journal : Journal GatewayCall)
    (sha256 : String) : Prop :=
  if stage = .sign then Artifact.contentHash origin binary = .ok sha256
  else SignedAs binary journal sha256

/-- The tools that rewrite the binary leave one that can be read when they succeed. -/
def Legible (binary : Path) (journal : Journal GatewayCall) : Prop :=
  ∀ line ∈ journal, line.call.stage = .sign ∨ line.call.stage = .staple → line.call.Succeeded →
    ∃ bytes, line.after.read binary = .ok bytes

/-- What a run that fails at a step gives back. -/
structure FailsAt (binary : Path) (origin : FileSystem) (stage : Stage) (error : TrustError)
    (artifact : Artifact) (journal : Journal GatewayCall) : Prop where
  path : artifact.path = binary
  named : error.NamesOnly stage
  digest : Digested binary origin stage journal artifact.sha256
  /-- The step before is the last that has been completed. -/
  marker : Legible binary journal → StandsBefore stage artifact.marker

/-! ## Errors that name no step -/

theorem isOwn_of_identity {pipeline : Pipeline α} {failure : TrustError}
    (unnamed : pipeline.identity = .error failure) : failure.IsOwn := by
  unfold identity at unnamed
  dsimp only at unnamed
  split at unnamed <;> cases unnamed
  trivial

theorem isOwn_of_bundleId {pipeline : Pipeline α} {failure : TrustError}
    (unnamed : pipeline.bundleId = .error failure) : failure.IsOwn := by
  unfold bundleId at unnamed
  dsimp only at unnamed
  split at unnamed <;> cases unnamed
  trivial

theorem isOwn_of_credential {pipeline : Pipeline α} {failure : TrustError}
    (uncredentialed : pipeline.credential = .error failure) : failure.IsOwn := by
  unfold credential at uncredentialed
  split at uncredentialed <;> cases uncredentialed
  trivial

theorem isOwn_of_distinct {binary : Path} {failure : TrustError}
    (same : distinctArchivePath binary = .error failure) : failure.IsOwn := by
  unfold distinctArchivePath at same
  dsimp only at same
  split at same <;> cases same
  trivial

theorem isOwn_of_claim {archive : Path} {files : FileSystem} {failure : TrustError}
    (unclaimed : (claim archive files).1 = .error failure) : failure.IsOwn := by
  rw [claim_apply] at unclaimed
  dsimp only at unclaimed
  split at unclaimed
  · cases unclaimed
  · split at unclaimed <;> cases unclaimed
    trivial

theorem isOwn_of_advance {artifact : Artifact} {next : Marker} {failure : TrustError}
    (disordered : artifact.advance next = .error failure) : failure.IsOwn := by
  rcases Artifact.advance_eq_error_iff.1 disordered with ⟨-, rfl⟩
  trivial

theorem isOwn_of_contentHash {files : FileSystem} {path : Path} {failure : TrustError}
    (unreadable : Artifact.contentHash files path = .error failure) : failure.IsOwn := by
  unfold Artifact.contentHash at unreadable
  split at unreadable <;> cases unreadable <;> trivial

theorem isOwn_of_startingAt {marker : Marker} {files : FileSystem} {path : Path}
    {failure : TrustError} (unopened : Artifact.startingAt marker files path = .error failure) :
    failure.IsOwn := by
  rcases Except.bind_eq_error_iff.1 unopened with unreadable | ⟨_, -, ⟨⟩⟩
  exact isOwn_of_contentHash unreadable

theorem isOwn_of_check {pipeline : Pipeline α} {binary : Path} {stage : Stage}
    {failure : TrustError} (unchecked : pipeline.check binary = .error (stage, failure)) :
    failure.IsOwn := by
  rcases Except.bind_eq_error_iff.1 unchecked with unnamed | ⟨_, -, unchecked⟩
  · obtain ⟨_, unnamed, ⟨⟩⟩ := Except.mapError_eq_error_iff.1 unnamed
    exact isOwn_of_identity unnamed
  rcases Except.bind_eq_error_iff.1 unchecked with unnamed | ⟨_, -, unchecked⟩
  · obtain ⟨_, unnamed, ⟨⟩⟩ := Except.mapError_eq_error_iff.1 unnamed
    exact isOwn_of_bundleId unnamed
  rcases Except.bind_eq_error_iff.1 unchecked with uncredentialed | ⟨_, -, unchecked⟩
  · obtain ⟨_, uncredentialed, ⟨⟩⟩ := Except.mapError_eq_error_iff.1 uncredentialed
    exact isOwn_of_credential uncredentialed
  rcases Except.bind_eq_error_iff.1 unchecked with same | ⟨_, -, ⟨⟩⟩
  · obtain ⟨_, same, ⟨⟩⟩ := Except.mapError_eq_error_iff.1 same
    exact isOwn_of_distinct same

/-- A digest cannot be taken only if the binary cannot be read. -/
theorem contentHash_of_refresh {artifact : Artifact} {files : FileSystem} {failure : TrustError}
    (unreadable : artifact.refresh files = .error failure) :
    Artifact.contentHash files artifact.path = .error failure := by
  rcases Except.bind_eq_error_iff.1 unreadable with hashed | ⟨_, -, ⟨⟩⟩
  exact hashed

/-! ## From step to step -/

/-- An artifact as it is opened. -/
structure Opened (binary : Path) (origin : FileSystem) (artifact : Artifact) : Prop where
  path : artifact.path = binary
  marker : artifact.marker = .unsigned
  digest : Artifact.contentHash origin binary = .ok artifact.sha256

/-- An artifact that has been signed and has come to a marker. -/
structure Carried (binary : Path) (marker : Marker) (artifact : Artifact)
    (journal : Journal GatewayCall) : Prop where
  path : artifact.path = binary
  marker : artifact.marker = marker
  digest : SignedAs binary journal artifact.sha256

variable {binary : Path} {origin : FileSystem} {stage : Stage} {marker next : Marker}
  {artifact reached : Artifact} {journal more : Journal GatewayCall} {failure : TrustError}

theorem SignedAs.append {sha256 : String} (signed : SignedAs binary journal sha256) :
    SignedAs binary (journal ++ more) sha256 := by
  obtain ⟨line, member, rest⟩ := signed
  exact ⟨line, List.mem_append_left more member, rest⟩

theorem Carried.append (carried : Carried binary marker artifact journal) :
    Carried binary marker artifact (journal ++ more) :=
  ⟨carried.path, carried.marker, carried.digest.append⟩

theorem Carried.calls {session after : Recording α}
    (carried : Carried binary marker artifact session.journal)
    (calls : session.Calls stage after) : Carried binary marker artifact after.journal := by
  obtain ⟨lines, grown, -, -⟩ := calls
  rw [grown]
  exact carried.append

theorem Carried.advance (carried : Carried binary marker artifact journal)
    (advanced : artifact.advance next = .ok reached) :
    Carried binary next reached journal := by
  obtain ⟨-, rfl⟩ := Artifact.advance_eq_ok_iff.1 advanced
  exact ⟨carried.path, rfl, carried.digest⟩

/-- A step after signing that leaves the artifact alone. -/
theorem Carried.failsAt (carried : Carried binary marker artifact journal)
    (stands : StandsBefore stage marker) (later : stage ≠ .sign)
    (named : failure.NamesOnly stage) : FailsAt binary origin stage failure artifact journal where
  path := carried.path
  named := named
  digest := by
    rw [Digested, if_neg later]
    exact carried.digest
  marker _ := carried.marker ▸ stands

/-- A tool that rewrites the binary, if the step fails. -/
theorem Rewriting.failsAt {note : Except ToolError ToolOutput → GatewayCall}
    {request : Call (World α) ToolError ToolOutput} {session after : Recording α}
    (rewriting : Rewriting stage next (Exchange.recorded note request) artifact session
      ((.error failure, reached), after))
    (noted : ∀ answer, (note answer).stage = stage) (rewrites : stage = .sign ∨ stage = .staple)
    (succeeded : ∀ output, (note (.ok output)).Succeeded) (path : artifact.path = binary)
    (stands : StandsBefore stage artifact.marker)
    (digest : Digested binary origin stage after.journal artifact.sha256) :
    FailsAt binary origin stage failure reached after.journal := by
  cases rewriting with
  | refused answered => exact ⟨path, .of_some rfl, digest, fun _ => stands⟩
  | disordered answered disordered =>
      exact ⟨path, (isOwn_of_advance disordered).namesOnly _, digest, fun _ => stands⟩
  | @unreadable output _ _ _ answered advanced unreadable =>
      obtain ⟨-, rfl⟩ := Artifact.advance_eq_ok_iff.1 advanced
      have hashed := contentHash_of_refresh unreadable
      refine ⟨path, (isOwn_of_contentHash hashed).namesOnly _, digest, fun legible => ?_⟩
      -- The tool has succeeded, so the binary could be read.
      have journal := Session.journal_of_exchange note answered
      have member : (⟨note (.ok output), session.world.files, after.world.files⟩ : Line _) ∈
          after.journal := by
        rw [journal]
        exact List.mem_append_right _ (List.mem_singleton_self _)
      obtain ⟨bytes, read⟩ :=
        legible _ member ((noted _).symm ▸ rewrites) (succeeded output)
      have readable := Artifact.contentHash_eq_ok_iff.2 ⟨bytes, read, rfl⟩
      rw [← path] at readable
      exact absurd (readable.symm.trans hashed) nofun

section Steps

variable (pipeline : Pipeline α)

theorem sign_fails :
    Work.Ensures (fun artifact (_ : Recording α) => Opened binary origin artifact)
      pipeline.recorded.sign
      (fun _ artifact session => Carried binary .signed artifact session.journal)
      (fun failure artifact session =>
        FailsAt binary origin .sign failure artifact session.journal) := by
  intro artifact session opened
  have digest (journal : Journal GatewayCall) :
      Digested binary origin .sign journal artifact.sha256 := by
    rw [Digested, if_pos rfl]
    exact opened.digest
  have stands : StandsBefore .sign artifact.marker := by
    rw [opened.marker]
    exact .sign
  have ends := sign_ends pipeline.recorded artifact session
  generalize pipeline.recorded.sign artifact session = left at ends ⊢
  cases ends with
  | cancelled => exact ⟨opened.path, .of_some rfl, digest _, fun _ => stands⟩
  | unnamed _ unnamed =>
      exact ⟨opened.path, (isOwn_of_identity unnamed).namesOnly _, digest _, fun _ => stands⟩
  | missing => exact ⟨opened.path, .of_none rfl, digest _, fun _ => stands⟩
  | @called identity _ ready named rewriting =>
      rcases left with ⟨⟨failure | _, reached⟩, after⟩
      · exact rewriting.failsAt (fun _ => rfl) (.inl rfl) (fun output => ⟨output, rfl⟩)
          opened.path stands (digest _)
      · cases rewriting with
        | done answered advanced reread =>
            have path := Artifact.path_of_advance advanced
            have marker := Artifact.marker_of_advance advanced
            obtain ⟨sha256, hashed, rfl⟩ := Artifact.refresh_eq_ok_iff.1 reread
            have journal := Session.journal_of_exchange
              (GatewayCall.sign artifact.path identity pipeline.settings.signing) answered
            refine ⟨path.trans opened.path, marker, ?_⟩
            rw [journal]
            refine ⟨_, List.mem_append_right _ (List.mem_singleton_self _), rfl, ⟨_, rfl⟩, ?_⟩
            rw [← opened.path, ← path]
            exact hashed

theorem verify_fails :
    Work.Ensures (fun artifact session => Carried binary .signed artifact session.journal)
      (do Work.act (pipeline.recorded.verify (← get)))
      (fun _ artifact session => Carried binary .signed artifact session.journal)
      (fun failure artifact session =>
        FailsAt binary origin .verify failure artifact session.journal) := by
  intro artifact session carried
  have after := carried.calls (pipeline.verify_calls artifact session)
  have ends := verify_ends pipeline.recorded artifact session
  rw [Work.bind_apply, Work.get_apply]
  dsimp only
  rw [Work.act_apply]
  generalize pipeline.recorded.verify artifact session = left at after ends ⊢
  cases ends with
  | cancelled => exact after.failsAt .verify nofun (.of_some rfl)
  | missing => exact after.failsAt .verify nofun (.of_none rfl)
  | refused =>
      refine after.failsAt .verify nofun (.of_none ?_)
      rw [brokenSignature, if_pos after.marker]
      rfl
  | done => exact after

theorem Packing.carried {archive : Path} {session : Recording α}
    {left : Left (α × Journal GatewayCall) Unit}
    (packing : Packing pipeline.recorded archive artifact session left)
    (carried : Carried binary .signed artifact session.journal) :
    Carried binary .signed artifact left.2.journal := by
  obtain ⟨answer, journal⟩ := packing.called
  rw [journal]
  exact carried.append

theorem package_fails :
    Work.Ensures (fun artifact session => Carried binary .signed artifact session.journal)
      pipeline.recorded.package
      (fun archive artifact session => Carried binary (.packaged archive) artifact session.journal)
      (fun failure artifact session =>
        FailsAt binary origin .package failure artifact session.journal) := by
  intro artifact session carried
  have ends := package_ends pipeline.recorded artifact session
  generalize pipeline.recorded.package artifact session = left at ends ⊢
  cases ends with
  | cancelled => exact carried.failsAt .package nofun (.of_some rfl)
  | missing => exact carried.failsAt .package nofun (.of_none rfl)
  | sameFile _ same =>
      exact carried.failsAt .package nofun ((isOwn_of_distinct same).namesOnly _)
  | unclaimed _ _ unclaimed =>
      exact carried.failsAt .package nofun ((isOwn_of_claim unclaimed).namesOnly _)
  | failed _ _ _ packing =>
      have after := packing.carried pipeline carried
      cases packing with
      | refused | unwritten => exact after.failsAt .package nofun (.of_some rfl)
      | disordered _ _ disordered =>
          exact after.failsAt .package nofun ((isOwn_of_advance disordered).namesOnly _)
  | done _ _ _ packing =>
      have after := packing.carried pipeline carried
      cases packing with
      | done _ _ advanced => exact after.advance advanced

theorem submit_fails (archive : Path) :
    Work.Ensures
      (fun artifact session => Carried binary (.packaged archive) artifact session.journal)
      (pipeline.recorded.submit archive)
      (fun submission artifact session =>
        Carried binary (.submitted submission.trackingId) artifact session.journal)
      (fun failure artifact session =>
        FailsAt binary origin .submit failure artifact session.journal) := by
  intro artifact session carried
  have after := carried.calls (pipeline.submit_calls archive artifact session)
  have ends := submit_ends pipeline.recorded archive artifact session
  generalize pipeline.recorded.submit archive artifact session = left at after ends ⊢
  cases ends with
  | cancelled | refused | unreadable => exact after.failsAt .submit nofun (.of_some rfl)
  | unnamed _ unnamed =>
      exact after.failsAt .submit nofun ((isOwn_of_bundleId unnamed).namesOnly _)
  | uncredentialed _ uncredentialed =>
      exact after.failsAt .submit nofun ((isOwn_of_credential uncredentialed).namesOnly _)
  | disordered _ _ _ _ _ disordered =>
      exact after.failsAt .submit nofun ((isOwn_of_advance disordered).namesOnly _)
  | done _ _ _ _ _ advanced => exact after.advance advanced

theorem await_fails (submission : Submission) :
    Work.Ensures
      (fun artifact session =>
        Carried binary (.submitted submission.trackingId) artifact session.journal)
      (pipeline.recorded.await (ε := Stage × TrustError) submission)
      (fun answer artifact session =>
        match answer.1 with
        | .ok _ => Carried binary (.verdict .success) artifact session.journal
        | .error failure => FailsAt binary origin .poll failure artifact session.journal)
      (fun failure artifact session =>
        FailsAt binary origin failure.1 failure.2 artifact session.journal) := by
  intro artifact session carried
  have calls := pipeline.await_calls (ε := Stage × TrustError) submission artifact session
  obtain ⟨result, watched, reached, after, awaited, awaiting⟩ :=
    await_ends (ε := Stage × TrustError) pipeline.recorded submission artifact session
  rw [awaited] at calls ⊢
  have carried := carried.calls calls
  cases awaiting with
  | uncredentialed uncredentialed =>
      exact carried.failsAt .poll nofun ((isOwn_of_credential uncredentialed).namesOnly _)
  | concluded _ _ _ concluding =>
      cases concluding with
      | accepted advanced => exact carried.advance advanced
      | rejected advanced =>
          exact (carried.advance advanced).failsAt .rejected nofun (.of_none rfl)
      | unknown advanced | timedOut advanced =>
          exact (carried.advance advanced).failsAt .unknown nofun (.of_none rfl)
      | disordered disordered =>
          exact carried.failsAt .poll nofun ((isOwn_of_advance disordered).namesOnly _)
      | cancelled => exact carried.failsAt .poll nofun (.of_some rfl)

theorem staple_fails :
    Work.Ensures
      (fun artifact session => Carried binary (.verdict .success) artifact session.journal)
      pipeline.recorded.staple (fun _ _ _ => True)
      (fun failure artifact session =>
        FailsAt binary origin .staple failure artifact session.journal) := by
  intro artifact session carried
  have after := carried.calls (pipeline.staple_calls artifact session)
  have ends := staple_ends pipeline.recorded artifact session
  generalize pipeline.recorded.staple artifact session = left at after ends ⊢
  cases ends with
  | cancelled => exact after.failsAt .staple nofun (.of_some rfl)
  | unaccepted | missing => exact after.failsAt .staple nofun (.of_none rfl)
  | called _ accepted rewriting =>
      rcases left with ⟨⟨failure | _, reached⟩, later⟩
      · have digest : Digested binary origin .staple later.journal artifact.sha256 := by
          rw [Digested, if_neg (by decide)]
          exact after.digest
        refine rewriting.failsAt (fun _ => rfl) (.inr rfl) (fun output => ⟨output, rfl⟩)
          carried.path ?_ digest
        rw [accepted]
        exact .staple
      · trivial

/-- A step that fails on its way through all steps. -/
def Fails (binary : Path) (origin : FileSystem) (failure : Stage × TrustError)
    (artifact : Artifact) (session : Recording α) : Prop :=
  FailsAt binary origin failure.1 failure.2 artifact session.journal

theorem steps_fail :
    Work.Ensures (fun artifact (_ : Recording α) => Opened binary origin artifact)
      pipeline.recorded.steps (fun _ _ _ => True) (Fails binary origin) := by
  have submitted (archive : Path) : Work.Ensures
      (fun artifact (session : Recording α) =>
        Carried binary (.packaged archive) artifact session.journal)
      (Work.always (inStage .submit (pipeline.recorded.submit archive)) (FileAct.discard archive))
      (fun submission artifact session =>
        Carried binary (.submitted submission.trackingId) artifact session.journal)
      (Fails binary origin) := by
    apply (pipeline.submit_fails archive).always
    · intro submission artifact session carried
      rw [Session.journal_discarding]
      exact carried
    · intro failure artifact session fails
      rw [Fails, Session.journal_discarding]
      exact fails
  exact Work.ensures_steps pipeline.sign_fails pipeline.verify_fails pipeline.package_fails
    submitted pipeline.await_fails fun _ => pipeline.staple_fails

end Steps

/-! ## A tool that leaves nothing to read -/

/-- A session over one binary. -/
def overBinary : Session (World Unit) where
  world := ⟨⟨[(["agent"], .file .empty)], [], []⟩, ()⟩
  now := 0
  horizon := Nanos.lastOfClock
  token := .fresh
  drift _ := 0
  rests := 0

/-- A tool that succeeds and leaves no binary. -/
def removes (binary : Path) : Call (World Unit) ToolError ToolOutput := fun world =>
  match world.files.remove binary with
  | .ok files => ⟨.ok ⟨"", ""⟩, ⟨files, ()⟩, 0, false⟩
  | .error _ => ⟨.ok ⟨"", ""⟩, world, 0, false⟩

/-- A pipeline that signs with that tool. -/
def removing : Pipeline Unit :=
  { idle with signer := ⟨fun binary _ _ => removes binary, idle.signer.verify⟩ }

/-! ## Every run -/

/-- A run that has opened its binary and then fails gives back the artifact where the step that
failed has found it. -/
theorem run_fails_in_place (pipeline : Pipeline α) (binary : Path) (session : Session (World α))
    (opened : Artifact) (failure : PipelineFailure) (checked : pipeline.check binary = .ok ())
    (tracked : Artifact.track session.world.files binary = .ok opened)
    (failed : (pipeline.run binary session).1 = .error failure) :
    ∃ artifact, failure.artifact = some artifact ∧
      FailsAt binary session.world.files failure.stage failure.error artifact
        (pipeline.calls binary session) := by
  rw [run_eq_recorded] at failed
  rw [calls]
  have ends := run_ends pipeline.recorded binary session.recording
  generalize pipeline.recorded.run binary session.recording = left at failed ends ⊢
  cases ends with
  | unprepared unchecked => cases checked.symm.trans unchecked
  | unopened _ unopened => cases tracked.symm.trans unopened
  | done => cases failed
  | @failed started reached stage error after _ begun stopped =>
      cases failed
      obtain ⟨sha256, hashed, rfl⟩ := Artifact.startingAt_eq_ok_iff.1 begun
      have start : Opened binary session.world.files ⟨binary, sha256, [], .unsigned⟩ :=
        ⟨rfl, rfl, hashed⟩
      have met := pipeline.steps_fail _ session.recording start
      rw [stopped] at met
      exact ⟨reached, rfl, met⟩

/-- A packager that writes nothing stops a run, which gives back a signed artifact. -/
theorem run_fails_in_place_idle :
    let binary : Path := ⟨"/agent"⟩
    let digest := Sha256.hexDigest .empty
    let calls := idle.calls binary overBinary
    let failure : PipelineFailure :=
      ⟨.package, some ⟨binary, digest, [.unsigned], .signed⟩,
        .protocol .package "no archive written at /agent.zip"⟩
    idle.check binary = .ok () ∧
      Artifact.track overBinary.world.files binary = .ok ⟨binary, digest, [], .unsigned⟩ ∧
      (idle.run binary overBinary).1 = .error failure ∧ Legible binary calls ∧
      StandsBefore .package .signed ∧ SignedAs binary calls digest := by
  intro binary digest calls failure
  have checked : idle.check binary = .ok () := by decide +kernel
  have tracked : Artifact.track overBinary.world.files binary =
      .ok ⟨binary, digest, [], .unsigned⟩ :=
    Artifact.startingAt_eq_ok_iff.2
      ⟨digest, Artifact.contentHash_eq_ok_iff.2 ⟨.empty, by decide +kernel, rfl⟩, rfl⟩
  have failed : (idle.run binary overBinary).1 = .error failure := by decide +kernel
  have kept : ∀ line ∈ calls, line.after.read binary = .ok .empty := by decide +kernel
  have legible : Legible binary calls := fun line member _ _ => ⟨.empty, kept line member⟩
  obtain ⟨artifact, ⟨⟩, fails⟩ :=
    run_fails_in_place idle binary overBinary _ failure checked tracked failed
  exact ⟨checked, tracked, failed, legible, fails.marker legible, fails.digest⟩

/-- A tool that signs and leaves no binary stops the run at signing, with the artifact already
signed. -/
theorem run_signs_removed_binary :
    ∃ artifact error,
      (removing.run ⟨"/agent"⟩ overBinary).1 = .error ⟨.sign, some artifact, error⟩ ∧
        artifact.marker = .signed ∧ ¬StandsBefore .sign artifact.marker :=
  ⟨⟨⟨"/agent"⟩, Sha256.hexDigest .empty, [.unsigned], .signed⟩, .notFound ⟨"/agent"⟩,
    by decide +kernel, rfl, nofun⟩

end Pipeline

end Steward
