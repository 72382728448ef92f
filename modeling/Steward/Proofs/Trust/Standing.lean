import Steward.Proofs.Trust.Calls
import Steward.Proofs.Trust.History

/-!
# Where a run stands

A run comes to its operations one after the other, each time with an artifact
and a session.  What the run comes to in the end is what the operations that
are left make of these two, so it can be read off from any operation that the
run has come to.
-/

namespace Steward.Pipeline

variable {α : Type}

/-! ## The operations that are left -/

namespace Operation

/-- The step that an operation is. -/
def stage : Operation → Stage
  | sign => .sign
  | verify => .verify
  | package => .package
  | submit _ => .submit
  | await _ => .poll
  | staple => .staple

/-- How many operations of a run come after one. -/
def left : Operation → Nat
  | sign => 5
  | verify => 4
  | package => 3
  | submit _ => 2
  | await _ => 1
  | staple => 0

end Operation

/-- All steps from an operation on. -/
def onward (pipeline : Pipeline α) : Operation → Work α (Stage × TrustError) Unit
  | .sign => do
    inStage .sign pipeline.sign
    pipeline.onward .verify
  | .verify => do
    inStage .verify (do Work.act (pipeline.verify (← get)))
    pipeline.onward .package
  | .package => do
    let archive ← inStage .package pipeline.package
    pipeline.onward (.submit archive)
  | .submit archive => do
    let submission ←
      Work.always (inStage .submit (pipeline.submit archive)) (FileAct.discard archive)
    pipeline.onward (.await submission)
  | .await submission => do
    let (verdict, _) ← pipeline.await submission
    inStage .poll (Work.ofExcept verdict)
    pipeline.onward .staple
  | .staple => inStage .staple pipeline.staple
termination_by operation => operation.left
decreasing_by all_goals simp [Operation.left]

theorem steps_eq_onward (pipeline : Pipeline α) : pipeline.steps = pipeline.onward .sign := by
  simp only [steps, onward]

section Onward

variable (pipeline : Pipeline α) {artifact reached : Artifact} {session after : Session (World α)}
  {archive : Path} {submission watched : Submission} {failure : TrustError}

theorem onward_sign (done : pipeline.sign artifact session = ((.ok (), reached), after)) :
    pipeline.onward .sign artifact session = pipeline.onward .verify reached after := by
  rw [onward, Work.bind_apply, Work.inStage_apply, done]
  rfl

theorem onward_sign_error
    (failed : pipeline.sign artifact session = ((.error failure, reached), after)) :
    pipeline.onward .sign artifact session = ((.error (.sign, failure), reached), after) := by
  rw [onward, Work.bind_apply, Work.inStage_apply, failed]
  rfl

theorem onward_verify (done : pipeline.verify artifact session = (.ok (), after)) :
    pipeline.onward .verify artifact session = pipeline.onward .package artifact after := by
  rw [onward, Work.bind_apply, Work.inStage_apply, Work.bind_apply, Work.get_apply]
  dsimp only
  rw [Work.act_apply, done]
  rfl

theorem onward_verify_error (failed : pipeline.verify artifact session = (.error failure, after)) :
    pipeline.onward .verify artifact session =
      ((.error (.verify, failure), artifact), after) := by
  rw [onward, Work.bind_apply, Work.inStage_apply, Work.bind_apply, Work.get_apply]
  dsimp only
  rw [Work.act_apply, failed]
  rfl

theorem onward_package
    (done : pipeline.package artifact session = ((.ok archive, reached), after)) :
    pipeline.onward .package artifact session =
      pipeline.onward (.submit archive) reached after := by
  rw [onward, Work.bind_apply, Work.inStage_apply, done]
  rfl

theorem onward_package_error
    (failed : pipeline.package artifact session = ((.error failure, reached), after)) :
    pipeline.onward .package artifact session =
      ((.error (.package, failure), reached), after) := by
  rw [onward, Work.bind_apply, Work.inStage_apply, failed]
  rfl

theorem onward_submit
    (done : pipeline.submit archive artifact session = ((.ok submission, reached), after)) :
    pipeline.onward (.submit archive) artifact session =
      pipeline.onward (.await submission) reached (after.discarding archive) := by
  rw [onward, Work.bind_apply, Work.always_apply, Work.inStage_apply, done]
  rfl

theorem onward_submit_error
    (failed : pipeline.submit archive artifact session = ((.error failure, reached), after)) :
    pipeline.onward (.submit archive) artifact session =
      ((.error (.submit, failure), reached), after.discarding archive) := by
  rw [onward, Work.bind_apply, Work.always_apply, Work.inStage_apply, failed]
  rfl

theorem onward_await
    (done : pipeline.await (ε := Stage × TrustError) submission artifact session =
      ((.ok (.ok (), watched), reached), after)) :
    pipeline.onward (.await submission) artifact session =
      pipeline.onward .staple reached after := by
  rw [onward, Work.bind_apply, done]
  rfl

theorem onward_await_error
    (failed : pipeline.await (ε := Stage × TrustError) submission artifact session =
      ((.ok (.error failure, watched), reached), after)) :
    pipeline.onward (.await submission) artifact session =
      ((.error (.poll, failure), reached), after) := by
  rw [onward, Work.bind_apply, failed]
  rfl

theorem onward_staple (done : pipeline.staple artifact session = ((.ok (), reached), after)) :
    pipeline.onward .staple artifact session = ((.ok (), reached), after) := by
  rw [onward, Work.inStage_apply, done]
  rfl

theorem onward_staple_error
    (failed : pipeline.staple artifact session = ((.error failure, reached), after)) :
    pipeline.onward .staple artifact session = ((.error (.staple, failure), reached), after) := by
  rw [onward, Work.inStage_apply, failed]
  rfl

end Onward

/-! ## What a run comes to -/

/-- A run comes to what its recording comes to, which also tells its calls. -/
theorem run_of_running {pipeline : Pipeline α} {binary : Path} {origin : Session (World α)}
    {result : Except PipelineFailure Artifact} {last : Recording α}
    (running : Running pipeline.recorded binary origin.recording (result, last)) :
    (pipeline.run binary origin).1 = result ∧ pipeline.calls binary origin = last.journal := by
  rw [run_eq_recorded, calls, running.run_eq]
  exact ⟨rfl, rfl⟩

/-- A recorded run comes to an operation with an artifact and a session. -/
inductive Reaches (pipeline : Pipeline α) (binary : Path) (origin : Session (World α)) :
    Operation → Artifact → Recording α → Prop
  | sign {artifact : Artifact} (checked : pipeline.check binary = .ok ())
      (opened : Artifact.track origin.world.files binary = .ok artifact) :
      Reaches pipeline binary origin .sign artifact origin.recording
  | verify {artifact signed : Artifact} {session after : Recording α}
      (earlier : Reaches pipeline binary origin .sign artifact session)
      (done : pipeline.recorded.sign artifact session = ((.ok (), signed), after)) :
      Reaches pipeline binary origin .verify signed after
  | package {artifact : Artifact} {session after : Recording α}
      (earlier : Reaches pipeline binary origin .verify artifact session)
      (done : pipeline.recorded.verify artifact session = (.ok (), after)) :
      Reaches pipeline binary origin .package artifact after
  | submit {artifact packed : Artifact} {archive : Path} {session after : Recording α}
      (earlier : Reaches pipeline binary origin .package artifact session)
      (done : pipeline.recorded.package artifact session = ((.ok archive, packed), after)) :
      Reaches pipeline binary origin (.submit archive) packed after
  | await {artifact submitted : Artifact} {archive : Path} {submission : Submission}
      {session after : Recording α}
      (earlier : Reaches pipeline binary origin (.submit archive) artifact session)
      (done : pipeline.recorded.submit archive artifact session =
        ((.ok submission, submitted), after)) :
      Reaches pipeline binary origin (.await submission) submitted (after.discarding archive)
  | staple {artifact accepted : Artifact} {submission watched : Submission}
      {session after : Recording α}
      (earlier : Reaches pipeline binary origin (.await submission) artifact session)
      (done : pipeline.recorded.await (ε := Stage × TrustError) submission artifact session =
        ((.ok (.ok (), watched), accepted), after)) :
      Reaches pipeline binary origin .staple accepted after

namespace Reaches

variable {pipeline : Pipeline α} {binary : Path} {origin : Session (World α)}
  {operation : Operation} {artifact reached : Artifact} {session after : Recording α}

/-- A run that comes to an operation has been prepared. -/
theorem checked (reaches : pipeline.Reaches binary origin operation artifact session) :
    pipeline.check binary = .ok () := by
  induction reaches with
  | sign checked => exact checked
  | verify | package | submit | await | staple => assumption

/-- All steps come to what the steps from an operation on come to. -/
theorem steps_eq (reaches : pipeline.Reaches binary origin operation artifact session) :
    ∃ opened, Artifact.track origin.world.files binary = .ok opened ∧
      pipeline.recorded.steps opened origin.recording =
        pipeline.recorded.onward operation artifact session := by
  induction reaches with
  | sign _ opened => exact ⟨_, opened, by rw [steps_eq_onward]⟩
  | verify _ done inductionHypothesis => rwa [onward_sign _ done] at inductionHypothesis
  | package _ done inductionHypothesis => rwa [onward_verify _ done] at inductionHypothesis
  | submit _ done inductionHypothesis => rwa [onward_package _ done] at inductionHypothesis
  | await _ done inductionHypothesis => rwa [onward_submit _ done] at inductionHypothesis
  | staple _ done inductionHypothesis => rwa [onward_await _ done] at inductionHypothesis

/-- A run fails as the steps from an operation on fail. -/
theorem run_of_error {stage : Stage} {failure : TrustError}
    (reaches : pipeline.Reaches binary origin operation artifact session)
    (stopped : pipeline.recorded.onward operation artifact session =
      ((.error (stage, failure), reached), after)) :
    (pipeline.run binary origin).1 = .error ⟨stage, some reached, failure⟩ ∧
      pipeline.calls binary origin = after.journal := by
  obtain ⟨opened, tracked, steps⟩ := reaches.steps_eq
  exact run_of_running (.failed reaches.checked tracked (steps.trans stopped))

/-- A run is done as the steps from an operation on are done. -/
theorem run_of_ok (reaches : pipeline.Reaches binary origin operation artifact session)
    (finished : pipeline.recorded.onward operation artifact session = ((.ok (), reached), after)) :
    (pipeline.run binary origin).1 = .ok reached ∧
      pipeline.calls binary origin = after.journal := by
  obtain ⟨opened, tracked, steps⟩ := reaches.steps_eq
  exact run_of_running (.done reaches.checked tracked (steps.trans finished))

end Reaches

/-- The queries of a recorded wait. -/
abbrev queries (pipeline : Pipeline α) (submission : Submission) (credential : Credential) :
    UInt32 → Call (World (α × Journal GatewayCall) × Submission) TrustError (Option Verdict) :=
  pipeline.recorded.probe submission.trackingId credential

/-- A recorded run that waits for a verdict comes to a session in which so many queries have been
made. -/
structure Waits (pipeline : Pipeline α) (binary : Path) (origin : Session (World α))
    (submission : Submission) (credential : Credential) (artifact : Artifact)
    (session : Recording α) (attempts : UInt32)
    (last : Session (World (α × Journal GatewayCall) × Submission)) : Prop where
  /-- The wait has begun. -/
  reaches : pipeline.Reaches binary origin (.await submission) artifact session
  /-- The queries are made with this credential. -/
  credentialed : pipeline.credential = .ok credential
  /-- All queries so far were pending. -/
  polled : Session.Polled Session.noOverrun (pipeline.recorded.verdictSchedule submission session)
    (pipeline.queries submission credential) session.now 0 (session.carrying submission) attempts
    last

/-! ## The markers on the way -/

theorem Marked.last {binary : Path} {markers : List Marker} {marker : Marker}
    {artifact : Artifact} (marked : Marked binary markers artifact)
    (last : markers.getLast? = some marker) : artifact.marker = marker := by
  rw [← marked.history, Artifact.history, List.getLast?_concat] at last
  exact Option.some.inj last

/-- An artifact can take the marker after its last. -/
theorem Marked.not_disordered {binary : Path} {markers : List Marker} {marker next : Marker}
    {artifact : Artifact} {failure : TrustError} (marked : Marked binary markers artifact)
    (last : markers.getLast? = some marker) (follows : next.ordinal = marker.ordinal + 1) :
    artifact.advance next ≠ .error failure := by
  intro disordered
  apply (Artifact.advance_eq_error_iff.1 disordered).1
  rw [marked.last last]
  exact follows

/-- The markers of a binary when an operation is begun on it. -/
def Stands (binary : Path) : Operation → Artifact → Prop
  | .sign, artifact => Marked binary [.unsigned] artifact
  | .verify, artifact | .package, artifact => Marked binary [.unsigned, .signed] artifact
  | .submit archive, artifact =>
    archive = archivePath binary ∧
      Marked binary [.unsigned, .signed, .packaged (archivePath binary)] artifact
  | .await submission, artifact =>
    Marked binary [.unsigned, .signed, .packaged (archivePath binary),
      .submitted submission.trackingId] artifact
  | .staple, artifact =>
    ∃ trackingId, Marked binary [.unsigned, .signed, .packaged (archivePath binary),
      .submitted trackingId, .verdict .success] artifact

section Stands

variable {pipeline : Pipeline α} {binary : Path} {artifact reached : Artifact}
  {session after : Session (World α)} {archive : Path} {submission watched : Submission}

theorem Stands.sign (stands : Stands binary .sign artifact)
    (done : pipeline.sign artifact session = ((.ok (), reached), after)) :
    Stands binary .verify reached := by
  have ends := sign_ends pipeline artifact session
  rw [done] at ends
  cases ends with
  | called _ _ rewriting =>
    cases rewriting with
    | done _ advanced reread => exact (Marked.advance stands advanced).refresh reread

theorem Stands.package (stands : Stands binary .package artifact)
    (done : pipeline.package artifact session = ((.ok archive, reached), after)) :
    Stands binary (.submit archive) reached := by
  have ends := package_ends pipeline artifact session
  rw [done] at ends
  cases ends with
  | done _ distinct _ packing =>
    obtain rfl : archive = archivePath binary :=
      stands.path ▸ archivePath_of_distinct distinct
    cases packing with
    | done _ _ advanced => exact ⟨rfl, Marked.advance stands advanced⟩

theorem Stands.submit (stands : Stands binary (.submit archive) artifact)
    (done : pipeline.submit archive artifact session = ((.ok submission, reached), after)) :
    Stands binary (.await submission) reached := by
  have ends := submit_ends pipeline archive artifact session
  rw [done] at ends
  cases ends with
  | done _ _ _ _ _ advanced => exact Marked.advance stands.2 advanced

theorem Stands.await (stands : Stands binary (.await submission) artifact)
    (done : pipeline.await (ε := Stage × TrustError) submission artifact session =
      ((.ok (.ok (), watched), reached), after)) :
    Stands binary .staple reached := by
  obtain ⟨result, _, _, _, awaited, awaiting⟩ :=
    await_ends (ε := Stage × TrustError) pipeline submission artifact session
  cases awaited.symm.trans done
  cases awaiting with
  | concluded _ _ _ concluding =>
    cases concluding with
    | accepted advanced => exact ⟨_, Marked.advance stands advanced⟩

end Stands

/-- An operation that a run comes to finds the markers of all steps before it. -/
theorem Reaches.stands {pipeline : Pipeline α} {binary : Path} {origin : Session (World α)}
    {operation : Operation} {artifact : Artifact} {session : Recording α}
    (reaches : pipeline.Reaches binary origin operation artifact session) :
    Stands binary operation artifact := by
  induction reaches with
  | sign _ opened => exact (readable_of_track opened).1
  | verify _ done inductionHypothesis => exact inductionHypothesis.sign done
  | package _ _ inductionHypothesis => exact inductionHypothesis
  | submit _ done inductionHypothesis => exact inductionHypothesis.package done
  | await _ done inductionHypothesis => exact inductionHypothesis.submit done
  | staple _ done inductionHypothesis => exact inductionHypothesis.await done

end Steward.Pipeline
