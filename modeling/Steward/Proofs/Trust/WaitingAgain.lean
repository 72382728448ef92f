import Steward.Proofs.Trust.Archive
import Steward.Proofs.Trust.Waiting

/-!
# Waiting again

A wait that runs out of time gives its artifact an unknown verdict.  An
artifact gets a verdict once, so another wait on the same artifact can only
fail, whatever the authority answers by then.  On an artifact that is still at
its submission, such as one that has been adopted anew, another wait comes to
what the authority answers.
-/

namespace Steward

variable {α ε : Type}

/-- The artifact with a verdict after its other markers. -/
def Artifact.decided (artifact : Artifact) (verdict : Verdict) : Artifact :=
  { artifact with earlier := artifact.history, marker := .verdict verdict }

/-- An artifact at its submission can take any verdict. -/
theorem Artifact.advance_eq_decided {artifact : Artifact} {trackingId : TrackingId}
    (submitted : artifact.marker = .submitted trackingId) (verdict : Verdict) :
    artifact.advance (.verdict verdict) = .ok (artifact.decided verdict) :=
  advance_eq_ok_iff.2 ⟨by simp [submitted, Marker.ordinal], rfl⟩

/-! ## One wait after another -/

/-- A submission after any number of waits for its verdict, by whatever pipelines, for whatever
artifacts and in whatever sessions. -/
inductive Submission.Waited (made : Submission) : Submission → Prop
  | made : made.Waited made
  | again {β γ : Type} {pipeline : Pipeline β} {artifact reached : Artifact}
      {session after : Session (World β)} {watched later : Submission}
      {result : Except TrustError Unit} (earlier : made.Waited watched)
      (waited : (pipeline.await watched : Work β γ _) artifact session =
        ((.ok (result, later), reached), after)) :
      made.Waited later

/-- What stays when a reply is noted on a submission stays whenever it is waited for. -/
theorem Submission.Waited.keeps {P : Submission → Prop} {made watched : Submission}
    (waits : made.Waited watched) (before : P made)
    (noted : ∀ submission reply, P submission → P (submission.noteIn reply)) : P watched := by
  induction waits with
  | made => exact before
  | @again _ _ pipeline artifact _ session _ _ _ _ _ waited inductionHypothesis =>
    obtain ⟨_, _, _, _, ended, awaiting⟩ := pipeline.await_ends _ artifact session
    cases waited.symm.trans ended
    exact awaiting.keeps inductionHypothesis noted

namespace Pipeline

/-! ## The answers of the authority -/

/-- The status in the answer to the first query of a wait that begins in a session. -/
def firstStatus (pipeline : Pipeline α) (trackingId : TrackingId) (credential : Credential)
    (session : Session (World α)) : Option Status :=
  statusIn (session.exchange (pipeline.notary.query trackingId credential)).1

/-- The authority has no verdict whenever a wait that begins in a session asks for it. -/
def StaysPending (pipeline : Pipeline α) (submission : Submission) (credential : Credential)
    (session : Session (World α)) : Prop :=
  ∀ attempts last,
    Session.Polled Session.noOverrun (pipeline.verdictSchedule submission session)
        (pipeline.probe (ε := TrustError) submission.trackingId credential) session.now 0
        (session.carrying submission) attempts last →
      (pipeline.firstStatus submission.trackingId credential last.unloaded).bind verdictOf = none

variable {pipeline : Pipeline α} {submission watched : Submission} {credential : Credential}
  {artifact reached : Artifact} {session after : Session (World α)}
  {result : Except TrustError Unit}

theorem exchange_probe_carrying (pipeline : Pipeline α) (credential : Credential)
    (session : Session (World α)) (submission : Submission) (trackingId : TrackingId)
    (attempt : UInt32) :
    ((session.carrying submission).exchange
        (pipeline.probe (ε := ε) trackingId credential attempt)).1 =
      .ok ((pipeline.firstStatus trackingId credential session).bind verdictOf) := by
  rw [exchange_probe]
  rfl

/-! ## Artifacts that have a verdict -/

/-- Running out of time gives the artifact an unknown verdict. -/
theorem Awaiting.marker_of_timeout {trackingId : TrackingId} {waited : Nat}
    (awaiting : Awaiting pipeline submission artifact session
      (.error (.timeout trackingId waited)) watched reached after) :
    ∃ status, reached.marker = .verdict (.unknown status) := by
  generalize outcome : Except.error (TrustError.timeout trackingId waited) = ended at awaiting
  cases awaiting with
  | uncredentialed uncredentialed =>
    rw [← Except.error.inj outcome] at uncredentialed
    unfold credential at uncredentialed
    split at uncredentialed <;> simp [Credential.missing] at uncredentialed
  | concluded _ _ _ concluding =>
    cases concluding with
    | accepted | rejected | unknown | cancelled => simp at outcome
    | timedOut advanced => exact ⟨_, Artifact.marker_of_advance advanced⟩
    | disordered disordered =>
      rw [← Except.error.inj outcome] at disordered
      simp [Artifact.advance_eq_error_iff] at disordered

/-- Where an artifact with a verdict is waited for, the wait fails and the artifact stays as it
is.  The wait is a step out of order unless it ends by the token. -/
theorem Awaiting.of_verdict {verdict : Verdict}
    (awaiting : Awaiting pipeline submission artifact session result watched reached after)
    (credentialed : pipeline.credential = .ok credential)
    (decided : artifact.marker = .verdict verdict) :
    reached = artifact ∧
      (result = .error (.stageOrder "verdict" "verdict") ∨
        result = .error (.cancelled .poll) ∧ after.isCancelled = true) := by
  have refused {next : Verdict} {later : Artifact} :
      artifact.advance (.verdict next) ≠ .ok later := by
    simp [Artifact.advance_eq_ok_iff, decided, Marker.ordinal]
  cases awaiting with
  | uncredentialed uncredentialed => simp [credentialed] at uncredentialed
  | concluded _ _ ended concluding =>
    cases concluding with
    | accepted advanced | rejected advanced | unknown advanced | timedOut advanced =>
      exact absurd advanced refused
    | disordered disordered =>
      rcases Artifact.advance_eq_error_iff.1 disordered with ⟨-, rfl⟩
      simp [decided, Marker.label]
    | cancelled =>
      refine ⟨rfl, .inr ⟨rfl, ?_⟩⟩
      cases ended with
      | cancelled fired => exact fired
      | disturbed _ _ _ _ fired => exact Session.isCancelled_restFor fired

/-! ## Artifacts at their submission -/

/-- The ticket can be attached to an artifact from any session that is ready for it. -/
def GoesAhead (pipeline : Pipeline α) (artifact : Artifact) : Prop :=
  ∀ session : Session (World α), Ready artifact session →
    Rewriting .staple .stapled (pipeline.notary.staple artifact.path) artifact session
      (pipeline.staple artifact session)

/-- A wait comes to what the authority answers. -/
structure Heeds (pipeline : Pipeline α) (submission : Submission) (credential : Credential)
    (artifact : Artifact) (session : Session (World α)) (result : Except TrustError Unit)
    (reached : Artifact) (after : Session (World α)) : Prop where
  accepted : pipeline.firstStatus submission.trackingId credential session = some .success →
    result = .ok () ∧ reached = artifact.decided .success ∧ pipeline.GoesAhead reached
  refused : ∀ token,
    pipeline.firstStatus submission.trackingId credential session = some (.invalid token) →
      result = .error (.rejected submission.trackingId token) ∧
        reached = artifact.decided (.rejected token)
  /-- Without a verdict the time runs out, unless the token fires before. -/
  pending : pipeline.StaysPending submission credential session →
    (result = .error (.timeout submission.trackingId (submission.remaining session.now)) ∧
        ∃ status, reached = artifact.decided (.unknown status)) ∨
      (result = .error (.cancelled .poll) ∧ reached = artifact ∧ after.isCancelled = true)

theorem goesAhead_of_success (accepted : artifact.marker = .verdict .success) :
    pipeline.GoesAhead artifact := by
  intro session ready
  have stapling := staple_ends pipeline artifact session
  generalize pipeline.staple artifact session = left at stapling
  cases stapling with
  | cancelled fired => simp [ready.live] at fired
  | unaccepted _ unaccepted => exact absurd accepted unaccepted
  | missing _ _ missing => simp [ready.present] at missing
  | called _ _ rewriting => exact rewriting

theorem trackingId_noteIn (submission : Submission) (answer : Except ToolError ToolOutput) :
    (submission.noteIn answer).trackingId = submission.trackingId := by
  unfold Submission.noteIn
  split <;> rfl

/-- However a poll of the authority ends, the submission is the one that was waited for. -/
theorem trackingId_of_polled {schedule : Schedule} {trackingId : TrackingId} {started : Nat}
    {attempts : UInt32} {last : Session (World α × Submission)}
    {ended : Except ε (Outcome Verdict) × Session (World α × Submission)}
    (polled : Session.Polled Session.noOverrun schedule
      (pipeline.probe (ε := ε) trackingId credential) started 0 (session.carrying submission)
      attempts last)
    (pollEnd : Session.PollEnd Session.noOverrun schedule
      (pipeline.probe (ε := ε) trackingId credential) started attempts last ended) :
    ended.2.world.2.trackingId = submission.trackingId :=
  kept_of_polled (P := fun later => later.trackingId = submission.trackingId) polled pollEnd rfl
    fun later reply same => (trackingId_noteIn later reply).trans same

theorem Awaiting.heeds {trackingId : TrackingId}
    (awaiting : Awaiting pipeline submission artifact session result watched reached after)
    (credentialed : pipeline.credential = .ok credential)
    (submitted : artifact.marker = .submitted trackingId) (live : session.isCancelled = false) :
    Heeds pipeline submission credential artifact session result reached after := by
  cases awaiting with
  | uncredentialed uncredentialed => simp [credentialed] at uncredentialed
  | @concluded used attempts outcome _ _ last final paid polled ended concluding =>
    cases Except.ok.inj (paid.symm.trans credentialed)
    have orderly (verdict : Verdict) (failure : TrustError) :
        artifact.advance (.verdict verdict) ≠ .error failure := by
      simp [Artifact.advance_eq_decided submitted]
    have taken {verdict : Verdict}
        (advanced : artifact.advance (.verdict verdict) = .ok reached) :
        reached = artifact.decided verdict :=
      Except.ok.inj (advanced.symm.trans (Artifact.advance_eq_decided submitted verdict))
    have same : final.world.2.trackingId = submission.trackingId :=
      trackingId_of_polled polled ended
    -- A first status that is final ends the poll there and then.
    have first {status : Status} {verdict : Verdict}
        (told : pipeline.firstStatus submission.trackingId credential session = some status)
        (final : verdictOf status = some verdict) : outcome = .ready verdict := by
      have answer := pipeline.exchange_probe_carrying (ε := TrustError) credential session
        submission submission.trackingId 1
      rw [told, Option.bind_some, final] at answer
      exact Except.ok.inj (congrArg Prod.fst (ended.ready_of_first polled live answer))
    constructor
    · intro told
      cases first told rfl
      cases concluding with
      | accepted advanced =>
        exact ⟨rfl, taken advanced, goesAhead_of_success (Artifact.marker_of_advance advanced)⟩
      | disordered disordered => exact absurd disordered (orderly _ _)
    · intro token told
      cases first told rfl
      cases concluding with
      | rejected advanced => exact ⟨by rw [same], taken advanced⟩
      | disordered disordered => exact absurd disordered (orderly _ _)
    · intro pending
      have answer := pipeline.exchange_probe_carrying (ε := TrustError) credential last.unloaded
        last.world.2 submission.trackingId (attempts + 1)
      rw [pending attempts last polled] at answer
      rcases ended.of_pending answer with
        ⟨made, elapsed, timedOut⟩ | ⟨made, cancelled, fired⟩ | ⟨_, _, untold, -⟩
      · cases timedOut
        cases concluding with
        | timedOut advanced => exact .inl ⟨by rw [same], _, taken advanced⟩
        | disordered disordered => exact absurd disordered (orderly _ _)
      · cases cancelled
        cases concluding with
        | cancelled => exact .inr ⟨rfl, rfl, fired⟩
        | disordered disordered => exact absurd disordered (orderly _ _)
      · cases untold

/-! ## Both -/

/-- After a wait that ran out of time, waiting again on the same artifact fails and gets it no
ticket.  Waiting again on an artifact that is at the submission comes to what the authority
answers. -/
theorem await_again (pipeline : Pipeline α) (first again : Submission)
    (artifact timedOut : Artifact) (credential : Credential) (trackingId : TrackingId)
    (waited : Nat) (watched : Submission) (before between session : Session (World α))
    (credentialed : pipeline.credential = .ok credential)
    (late : (pipeline.await first : Work α ε _) artifact before =
      ((.ok (.error (.timeout trackingId waited), watched), timedOut), between))
    (live : session.isCancelled = false) :
    (∃ result watched after,
      (pipeline.await again : Work α ε _) timedOut session =
          ((.ok (result, watched), timedOut), after) ∧
        (result = .error (.stageOrder "verdict" "verdict") ∨
          result = .error (.cancelled .poll) ∧ after.isCancelled = true) ∧
        ∀ later : Session (World α), later.isCancelled = false →
          pipeline.staple timedOut later =
            ((.error (.stageOrder "verdict" "stapled"), timedOut), later)) ∧
    ∀ submitted : Artifact, submitted.marker = .submitted again.trackingId →
      ∃ result watched reached after,
        (pipeline.await again : Work α ε _) submitted session =
            ((.ok (result, watched), reached), after) ∧
          Heeds pipeline again credential submitted session result reached after := by
  have unknown : ∃ status, timedOut.marker = .verdict (.unknown status) := by
    rcases await_ends (ε := ε) pipeline first artifact before with
      ⟨result, watched', reached, after, ended, awaiting⟩
    cases late.symm.trans ended
    exact awaiting.marker_of_timeout
  rcases unknown with ⟨status, decided⟩
  constructor
  · rcases await_ends (ε := ε) pipeline again timedOut session with
      ⟨result, watched, reached, after, ended, awaiting⟩
    rcases awaiting.of_verdict credentialed decided with ⟨rfl, failed⟩
    refine ⟨result, watched, after, ended, failed, ?_⟩
    intro later alive
    have stapling := staple_ends pipeline reached later
    generalize pipeline.staple reached later = left at stapling
    cases stapling with
    | cancelled fired => simp [alive] at fired
    | unaccepted => simp [decided, Marker.label]
    | missing _ accepted | called _ accepted => simp [decided] at accepted
  · intro submitted atSubmission
    rcases await_ends (ε := ε) pipeline again submitted session with
      ⟨result, watched, reached, after, ended, awaiting⟩
    exact ⟨result, watched, reached, after, ended,
      awaiting.heeds credentialed atSubmission live⟩

/-! ## An authority that takes its time -/

/-- A pipeline whose authority accepts a submission when it is asked for the second time. -/
def hesitant : Pipeline Bool where
  signer := ⟨fun _ _ _ => pure ⟨"", ""⟩, fun _ => pure ⟨"", ""⟩⟩
  packager := fun _ _ => pure ()
  notary :=
    { submit := fun _ _ _ => pure ⟨"id: id-1", ""⟩
      query := fun _ _ world =>
        ⟨.ok ⟨if world.agent then "status: success" else "status: in progress", ""⟩,
          { world with agent := true }, 0, false⟩
      staple := fun _ => pure ⟨"", ""⟩ }
  settings := ⟨"identity", "bundle", some (.profile "notary"), .standard, .standard⟩

/-- A binary that has been submitted. -/
def submittedAgent : Artifact := ⟨⟨"/agent"⟩, "", [], .submitted ⟨"id-1"⟩⟩

/-- A submission whose time is over at once. -/
def overdue : Submission := .make ⟨"id-1"⟩ 0 0

/-- A session in which the authority has not been asked. -/
def unasked : Session (World Bool) where
  world := ⟨⟨[(["agent"], .file .empty)], [], []⟩, false⟩
  now := 0
  horizon := Nanos.lastOfClock
  token := .fresh
  drift _ := 0
  rests := 0

/-- What a wait for the overdue submission comes to, with the session after it. -/
def overdueWait (artifact : Artifact) (session : Session (World Bool)) :
    (Except TrustError (Except TrustError Unit × Submission) × Artifact) ×
      Session (World Bool) :=
  hesitant.await overdue artifact session

/-- The artifact after the first wait. -/
def undecidedAgent : Artifact := submittedAgent.decided (.unknown "in progress")

theorem overdueWait_unasked :
    (overdueWait submittedAgent unasked).1 =
      (.ok (.error (.timeout ⟨"id-1"⟩ 0), overdue.note .inProgress), undecidedAgent) := by
  decide +kernel

theorem await_again_overdue :
    let between := (overdueWait submittedAgent unasked).2
    hesitant.credential = .ok (.profile "notary") ∧
      overdueWait submittedAgent unasked =
        ((.ok (.error (.timeout ⟨"id-1"⟩ 0), overdue.note .inProgress), undecidedAgent),
          between) ∧
      between.isCancelled = false ∧ submittedAgent.marker = .submitted overdue.trackingId ∧
      (∃ result watched after,
        overdueWait undecidedAgent between = ((.ok (result, watched), undecidedAgent), after) ∧
          result ≠ .ok ()) ∧
      ∃ watched after,
        overdueWait submittedAgent between =
          ((.ok (.ok (), watched), submittedAgent.decided .success), after) := by
  intro between
  have late : overdueWait submittedAgent unasked =
      ((.ok (.error (.timeout ⟨"id-1"⟩ 0), overdue.note .inProgress), undecidedAgent),
        between) :=
    Prod.ext overdueWait_unasked rfl
  have live : between.isCancelled = false := by decide +kernel
  have accepted : hesitant.firstStatus ⟨"id-1"⟩ (.profile "notary") between = some .success := by
    decide +kernel
  rcases await_again (ε := TrustError) hesitant overdue overdue submittedAgent undecidedAgent
    (.profile "notary") ⟨"id-1"⟩ 0 (overdue.note .inProgress) unasked between between rfl late
    live with ⟨⟨result, watched, after, same, failed, -⟩, adopted⟩
  rcases adopted submittedAgent rfl with ⟨result', watched', reached, after', ended, heeds⟩
  rcases heeds.accepted accepted with ⟨rfl, rfl, -⟩
  refine ⟨rfl, late, live, rfl, ⟨result, watched, after, same, ?_⟩, watched', after', ended⟩
  rcases failed with rfl | ⟨rfl, -⟩ <;> simp

/-- The authority accepts the submission as soon as it is asked again, and yet waiting again fails
and the ticket is refused. -/
theorem await_refuses_late_verdict :
    let between := (overdueWait submittedAgent unasked).2
    let again := overdueWait undecidedAgent between
    (overdueWait submittedAgent unasked).1 =
        (.ok (.error (.timeout ⟨"id-1"⟩ 0), overdue.note .inProgress), undecidedAgent) ∧
      between.isCancelled = false ∧
      hesitant.firstStatus overdue.trackingId (.profile "notary") between = some .success ∧
      again.1 =
        (.ok (.error (.stageOrder "verdict" "verdict"), overdue.note .success),
          undecidedAgent) ∧
      (hesitant.staple undecidedAgent again.2).1 =
        (.error (.stageOrder "verdict" "stapled"), undecidedAgent) := by
  decide +kernel

end Pipeline

end Steward
