import Steward.Proofs.Trust.Failures
import Steward.Proofs.Trust.History
import Steward.Proofs.Trust.WaitingAgain

/-!
# Steps out of order

An operation that is asked for out of order is refused.  Only attaching the
ticket looks at the marker first.  The other steps look at it when their tool
has done its work: what has been signed, packed or handed in by then stays so,
and the artifact does not say that it is.
-/

namespace Steward

variable {α : Type}

/-! ## Failures that are about something else -/

namespace Pipeline

variable {pipeline : Pipeline α} {earlier later : String}

theorem identity_ne_stageOrder : pipeline.identity ≠ .error (.stageOrder earlier later) := by
  unfold identity
  dsimp only
  split <;> nofun

theorem bundleId_ne_stageOrder : pipeline.bundleId ≠ .error (.stageOrder earlier later) := by
  unfold bundleId
  dsimp only
  split <;> nofun

theorem credential_ne_stageOrder : pipeline.credential ≠ .error (.stageOrder earlier later) := by
  unfold credential
  split <;> nofun

theorem distinctArchivePath_ne_stageOrder {binary : Path} :
    distinctArchivePath binary ≠ .error (.stageOrder earlier later) := by
  unfold distinctArchivePath
  dsimp only
  split <;> nofun

theorem claim_ne_stageOrder {archive : Path} {files : FileSystem} :
    (claim archive files).1 ≠ .error (.stageOrder earlier later) := by
  rw [claim_apply]
  dsimp only
  split
  · nofun
  · split <;> nofun

theorem refresh_ne_stageOrder {artifact : Artifact} {files : FileSystem} :
    artifact.refresh files ≠ .error (.stageOrder earlier later) := by
  intro unreadable
  have unhashed := contentHash_of_refresh unreadable
  unfold Artifact.contentHash at unhashed
  split at unhashed <;> cases unhashed

theorem verify_ne_stageOrder (pipeline : Pipeline α) (artifact : Artifact)
    (session : Session (World α)) :
    (pipeline.verify artifact session).1 ≠ .error (.stageOrder earlier later) := by
  have ends := verify_ends pipeline artifact session
  generalize pipeline.verify artifact session = left at ends ⊢
  cases ends with
  | cancelled | missing | done => nofun
  | refused =>
      intro refused
      have broken := Except.error.inj refused
      unfold brokenSignature at broken
      split at broken <;> cases broken

/-! ## What a refusal costs -/

/-- Whether an operation is the next step after a marker. -/
def Operation.IsDue : Operation → Marker → Prop
  | .sign, marker => marker = .unsigned
  | .verify, _ => True
  | .package, marker => marker = .signed
  | .submit _, marker => ∃ archive, marker = .packaged archive
  | .await _, marker => ∃ trackingId, marker = .submitted trackingId
  | .staple, marker => marker = .verdict .success

/-- The calls that an operation has made when it is refused. -/
def Operation.Spends : Operation → Journal GatewayCall → Prop
  | .sign, lines => ∃ line, lines = [line] ∧ line.call.stage = .sign ∧ line.call.Succeeded
  | .verify, _ => False
  | .package, lines => ∃ line, lines = [line] ∧ line.call.stage = .package ∧ line.call.Succeeded
  | .submit _, lines => ∃ line trackingId, lines = [line] ∧ line.call.trackingId? = some trackingId
  | .await _, lines => lines ≠ [] ∧ ∀ line ∈ lines, line.call.stage = .poll
  | .staple, lines => lines = []

/-- What a recorded operation leaves when it is refused. -/
structure Refused (operation : Operation) (artifact : Artifact)
    (session : Session (World (α × Journal GatewayCall))) (reached : Artifact)
    (after : Session (World (α × Journal GatewayCall))) : Prop where
  undue : ¬operation.IsDue artifact.marker
  same : reached = artifact
  spent : ∃ lines, after.journal = session.journal ++ lines ∧ operation.Spends lines

variable {artifact reached : Artifact} {session after : Session (World (α × Journal GatewayCall))}

/-- A marker is refused only after one that it does not follow. -/
theorem ordinal_ne_of_disordered {marker next : Marker} {failure : TrustError}
    (disordered : artifact.advance next = .error failure) (due : artifact.marker = marker) :
    next.ordinal ≠ marker.ordinal + 1 :=
  due ▸ (Artifact.advance_eq_error_iff.1 disordered).1

/-- A tool that rewrites the binary has done so before the marker is refused. -/
theorem Rewriting.of_stageOrder {stage : Stage} {next : Marker}
    {request : Call (World α) ToolError ToolOutput}
    {note : Except ToolError ToolOutput → GatewayCall}
    (rewriting : Rewriting stage next (Exchange.recorded note request) artifact session
      ((.error (.stageOrder earlier later), reached), after)) :
    artifact.advance next = .error (.stageOrder earlier later) ∧ reached = artifact ∧ ∃ output,
      after.journal =
        session.journal ++ [⟨note (.ok output), session.world.files, after.world.files⟩] := by
  cases rewriting with
  | disordered answer disordered =>
      exact ⟨disordered, rfl, _, Session.journal_of_exchange note answer⟩
  | unreadable _ _ unreadable => exact absurd unreadable refresh_ne_stageOrder

variable (pipeline)

theorem sign_refused (refused : (pipeline.recorded.sign artifact session).1.1 =
      .error (.stageOrder earlier later)) :
    Refused .sign artifact session (pipeline.recorded.sign artifact session).1.2
      (pipeline.recorded.sign artifact session).2 := by
  have ends := sign_ends pipeline.recorded artifact session
  generalize pipeline.recorded.sign artifact session = left at ends refused ⊢
  obtain ⟨⟨_, reached⟩, after⟩ := left
  cases refused
  cases ends with
  | unnamed _ unnamed => exact absurd unnamed identity_ne_stageOrder
  | called _ _ rewriting =>
      obtain ⟨disordered, same, output, journal⟩ := rewriting.of_stageOrder
      have undue : artifact.marker ≠ .unsigned :=
        fun due => ordinal_ne_of_disordered disordered due rfl
      exact ⟨undue, same, _, journal, _, rfl, rfl, output, rfl⟩

theorem package_refused (refused : (pipeline.recorded.package artifact session).1.1 =
      .error (.stageOrder earlier later)) :
    Refused .package artifact session (pipeline.recorded.package artifact session).1.2
      (pipeline.recorded.package artifact session).2 := by
  have ends := package_ends pipeline.recorded artifact session
  generalize pipeline.recorded.package artifact session = left at ends refused ⊢
  obtain ⟨⟨_, reached⟩, after⟩ := left
  cases refused
  cases ends with
  | sameFile _ same => exact absurd same distinctArchivePath_ne_stageOrder
  | unclaimed _ _ unclaimed => exact absurd unclaimed claim_ne_stageOrder
  | failed _ _ _ packing =>
      cases packing with
      | disordered answer _ disordered =>
          have journal := Session.journal_of_exchange (GatewayCall.package artifact.path _) answer
          have undue : artifact.marker ≠ .signed :=
            fun due => ordinal_ne_of_disordered disordered due rfl
          exact ⟨undue, rfl, _, journal, _, rfl, rfl, rfl⟩

theorem submit_refused {archive : Path}
    (refused : (pipeline.recorded.submit archive artifact session).1.1 =
      .error (.stageOrder earlier later)) :
    Refused (.submit archive) artifact session
      (pipeline.recorded.submit archive artifact session).1.2
      (pipeline.recorded.submit archive artifact session).2 := by
  have ends := submit_ends pipeline.recorded archive artifact session
  generalize pipeline.recorded.submit archive artifact session = left at ends refused ⊢
  obtain ⟨⟨_, reached⟩, after⟩ := left
  cases refused
  cases ends with
  | unnamed _ unnamed => exact absurd unnamed bundleId_ne_stageOrder
  | uncredentialed _ uncredentialed => exact absurd uncredentialed credential_ne_stageOrder
  | disordered _ _ _ answer tracked disordered =>
      have journal := Session.journal_of_exchange (GatewayCall.submit archive _ _) answer
      refine ⟨?_, rfl, _, journal, _, _, rfl, tracked⟩
      rintro ⟨packed, due⟩
      exact ordinal_ne_of_disordered disordered due rfl

/-- The marker is looked at when the wait is over. -/
theorem conclude_of_stageOrder {submission : Submission} {waited : Nat} {outcome : Outcome Verdict}
    {session after : Session (World α)}
    (concluded : conclude submission waited outcome artifact session =
      ((.error (.stageOrder earlier later), reached), after)) :
    reached = artifact ∧ (∀ attempts, outcome ≠ .cancelled attempts) ∧
      ∀ trackingId, artifact.marker ≠ .submitted trackingId := by
  have awake : ∀ attempts, outcome ≠ .cancelled attempts := by
    rintro attempts rfl
    cases concluded
  have concluding := (conclude_ends submission waited outcome artifact session).1
  rw [concluded] at concluding
  cases concluding with
  | disordered disordered =>
      exact ⟨rfl, awake, fun trackingId due => ordinal_ne_of_disordered disordered due rfl⟩

/-- A wait that is refused has asked the authority. -/
theorem await_refused {submission : Submission}
    (refused : ((pipeline.recorded.await submission : Work _ TrustError _) artifact
      session).1.1.bind Prod.fst = .error (.stageOrder earlier later)) :
    Refused (.await submission) artifact session
      ((pipeline.recorded.await submission : Work _ TrustError _) artifact session).1.2
      ((pipeline.recorded.await submission : Work _ TrustError _) artifact session).2 := by
  obtain ⟨_, _, reached, _, awaited, awaiting⟩ :=
    await_ends (ε := TrustError) pipeline.recorded submission artifact session
  rw [awaited] at refused ⊢
  cases refused
  cases awaiting with
  | uncredentialed uncredentialed => exact absurd uncredentialed credential_ne_stageOrder
  | @concluded credential attempts outcome _ _ last watched credentialed polled ended _ =>
      have concludes := await_of_pollEnd (ε := TrustError) pipeline.recorded artifact credentialed
        polled ended
      rcases concluded : conclude watched.world.2 (submission.remaining session.now) outcome
        artifact watched.unloaded with ⟨⟨result, left⟩, final⟩
      rw [awaited, concluded] at concludes
      cases concludes
      obtain ⟨same, awake, undue⟩ := conclude_of_stageOrder concluded
      refine ⟨fun ⟨trackingId, due⟩ => undue trackingId due, same, ?_⟩
      -- Unless the token ends it, a wait ends with a query.
      obtain ⟨lines, journal, polls, -⟩ := pipeline.polled_calls polled
      obtain ⟨answer, before, later, last, -⟩ :=
        pipeline.journal_probed submission.trackingId credential attempts last
      cases ended with
      | cancelled | disturbed => exact absurd rfl (awake _)
      | ready | timedOut =>
          refine ⟨lines ++ [⟨.query submission.trackingId credential answer, before, later⟩],
            by rw [last, journal, List.append_assoc], by simp, ?_⟩
          intro line member
          rcases List.mem_append.1 member with earlier | final
          · exact polls line earlier
          · rw [List.mem_singleton.1 final]
            rfl

/-- The ticket is refused before anything is done. -/
theorem staple_refused (session : Session (World α))
    (refused : (pipeline.staple artifact session).1.1 = .error (.stageOrder earlier later)) :
    artifact.marker ≠ .verdict .success ∧ (pipeline.staple artifact session).1.2 = artifact ∧
      (pipeline.staple artifact session).2 = session := by
  have ends := staple_ends pipeline artifact session
  generalize pipeline.staple artifact session = left at ends refused ⊢
  obtain ⟨⟨_, reached⟩, after⟩ := left
  cases refused
  cases ends with
  | unaccepted _ unaccepted => exact ⟨unaccepted, rfl, rfl⟩
  | called _ accepted rewriting =>
      cases rewriting with
      | disordered _ disordered =>
          exact absurd rfl (ordinal_ne_of_disordered disordered accepted)
      | unreadable _ _ unreadable => exact absurd unreadable refresh_ne_stageOrder

/-- What an operation comes to.  A wait comes to what it has waited for. -/
def answer (pipeline : Pipeline α) (operation : Operation) (artifact : Artifact)
    (session : Session (World α)) : Except TrustError Unit :=
  match operation with
  | .await submission => (pipeline.await submission artifact session).1.1.bind Prod.fst
  | operation => (pipeline.perform operation artifact session).1.1

theorem answer_recorded (operation : Operation) (artifact : Artifact) (session : Session (World α)) :
    pipeline.recorded.answer operation artifact session.recording =
      pipeline.answer operation artifact session := by
  have performed := pipeline.perform_refines operation artifact session.recording
  rw [Session.recording_through] at performed
  cases operation with
  | sign | verify | package | submit | staple => simp only [answer, performed]
  | await submission =>
      have awaited := pipeline.await_refines (ε := TrustError) submission artifact session.recording
      rw [Session.recording_through] at awaited
      rw [answer, answer, awaited]

/-- Whatever operation is refused, it has made its calls first, unless it attaches the ticket. -/
theorem perform_refused (operation : Operation)
    (refused : pipeline.recorded.answer operation artifact session =
      .error (.stageOrder earlier later)) :
    Refused operation artifact session (pipeline.recorded.perform operation artifact session).1.2
      (pipeline.recorded.perform operation artifact session).2 := by
  cases operation with
  | sign => exact pipeline.sign_refused refused
  | verify => exact absurd refused (pipeline.recorded.verify_ne_stageOrder artifact session)
  | package =>
      simp only [answer, perform, Work.bind_pure_apply] at refused
      rw [perform, Work.bind_pure_apply]
      exact pipeline.package_refused (Except.map_eq_error_iff.1 refused)
  | submit archive =>
      simp only [answer, perform, Work.bind_pure_apply] at refused
      rw [perform, Work.bind_pure_apply]
      exact pipeline.submit_refused (Except.map_eq_error_iff.1 refused)
  | await submission =>
      rw [perform, Work.bind_pure_apply]
      exact pipeline.await_refused refused
  | staple =>
      obtain ⟨undue, same, unchanged⟩ := pipeline.recorded.staple_refused session refused
      refine ⟨undue, same, [], ?_, rfl⟩
      rw [perform, unchanged, List.append_nil]

end Pipeline

namespace Turn

/-! ## What a turn has done when it is refused -/

/-- What a turn comes to. -/
def answer (turn : Turn α) (artifact : Artifact) : Except TrustError Unit :=
  turn.pipeline.answer turn.operation artifact turn.session

/-- Nobody has been called in a turn, and no file has been touched. -/
def IsIdle (turn : Turn α) (artifact : Artifact) : Prop :=
  turn.calls artifact = [] ∧
    (turn.pipeline.perform turn.operation artifact turn.session).2.world.files =
      turn.session.world.files

/-- A turn is refused as out of order only where it is, and the artifact stays as it was.  The
ticket is refused before anything is done; every other operation has called its tool by then.  An
archive that has been handed in has its id, which nobody is told. -/
theorem spends_of_stageOrder (turn : Turn α) (artifact : Artifact) (earlier later : String)
    (refused : turn.answer artifact = .error (.stageOrder earlier later)) :
    ¬turn.operation.IsDue artifact.marker ∧ turn.result artifact = artifact ∧
      turn.operation.Spends (turn.calls artifact) ∧
      (turn.IsIdle artifact ↔ turn.operation = .staple) := by
  obtain ⟨pipeline, operation, session⟩ := turn
  have recorded := pipeline.answer_recorded operation artifact session
  rw [show pipeline.answer operation artifact session = _ from refused] at recorded
  obtain ⟨undue, same, lines, journal, spends⟩ := pipeline.perform_refused operation recorded
  have performed := pipeline.perform_refines operation artifact session.recording
  rw [Session.recording_through] at performed
  have calls : Turn.calls ⟨pipeline, operation, session⟩ artifact = lines := journal
  refine ⟨undue, ?_, calls ▸ spends, ?_, ?_⟩
  · rw [result, performed, same]
  · rintro ⟨none, -⟩
    rw [calls] at none
    subst none
    cases operation with
    | staple => rfl
    | sign | package =>
        obtain ⟨line, made, -⟩ := spends
        cases made
    | submit archive =>
        obtain ⟨line, trackingId, made, -⟩ := spends
        cases made
    | verify => exact spends.elim
    | await submission => exact absurd rfl spends.1
  · rintro rfl
    have unchanged := (pipeline.staple_refused session refused).2.2
    exact ⟨calls.trans spends, congrArg (fun session => session.world.files) unchanged⟩

/-- A turn of the pipeline whose authority takes its time. -/
def hesitantTurn (operation : Pipeline.Operation) : Turn Bool :=
  ⟨Pipeline.hesitant, operation, Pipeline.unasked⟩

theorem spends_of_stageOrder_ticket :
    let turn := hesitantTurn .staple
    turn.answer Pipeline.submittedAgent = .error (.stageOrder "submitted" "stapled") ∧
      turn.IsIdle Pipeline.submittedAgent := by
  intro turn
  have refused : turn.answer Pipeline.submittedAgent =
      .error (.stageOrder "submitted" "stapled") := by
    decide +kernel
  have spends := spends_of_stageOrder turn Pipeline.submittedAgent "submitted" "stapled" refused
  exact ⟨refused, spends.2.2.2.2 rfl⟩

/-- A binary as it comes is handed in, and the authority gives the submission an id.  Then the step
is refused, and the artifact knows of no submission. -/
theorem submission_lost_out_of_order :
    let artifact : Artifact := ⟨⟨"/agent"⟩, "", [], .unsigned⟩
    let turn := hesitantTurn (.submit ⟨"/agent.zip"⟩)
    turn.answer artifact = .error (.stageOrder "unsigned" "submitted") ∧
      (turn.calls artifact).map (fun line => line.call.trackingId?) = [some ⟨"id-1"⟩] ∧
      (turn.result artifact).trackingId? = none ∧ ¬turn.IsIdle artifact := by
  intro artifact turn
  have asked : (turn.calls artifact).map (fun line => line.call.trackingId?) =
      [some ⟨"id-1"⟩] := by
    decide +kernel
  refine ⟨by decide +kernel, asked, by decide +kernel, fun idle => ?_⟩
  rw [idle.1] at asked
  cases asked

end Turn

end Steward
