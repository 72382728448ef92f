import Steward.Proofs.Session.Polling
import Steward.Proofs.Trust.Running

/-!
# Waiting for the verdict

A wait queries the authority until an answer is final or the deadline passes.
A query never fails the wait: it tells a status, which is recorded on the
submission, or nothing.
-/

namespace Steward

variable {α ε : Type}

/-- The status that the answer to a query tells, if it can be read. -/
def statusIn : Except ToolError ToolOutput → Option Status
  | .ok output => (Response.statusToken? output.combined).map Status.read
  | .error _ => none

/-- A submission with the status in the answer to a query recorded on it. -/
def Submission.noteIn (submission : Submission) (answer : Except ToolError ToolOutput) :
    Submission :=
  match statusIn answer with
  | some status => submission.note status
  | none => submission

namespace Pipeline

/-- A probe asks one query and never fails. -/
theorem exchange_probe (pipeline : Pipeline α) (trackingId : TrackingId)
    (credential : Credential) (attempt : UInt32) (session : Session (World α × Submission)) :
    session.exchange (pipeline.probe (ε := ε) trackingId credential attempt) =
      let answered := session.unloaded.exchange (pipeline.notary.query trackingId credential)
      (.ok ((statusIn answered.1).bind verdictOf),
        answered.2.carrying (session.world.2.noteIn answered.1)) := by
  obtain ⟨⟨world, submission⟩, now, horizon, token, drift, rests⟩ := session
  simp only [Session.exchange, Session.unloaded, Session.carrying, probe, ExceptT.mk,
    Exchange.bind_apply, Exchange.beside, ExceptT.run]
  rcases reply : pipeline.notary.query trackingId credential world with
    ⟨_ | output, after, took, fired⟩
  · simp [Submission.noteIn, statusIn]
  · simp only []
    cases told : Response.statusToken? output.combined with
    | none => simp [Submission.noteIn, statusIn, told]
    | some token => simp [Submission.noteIn, statusIn, told, Exchange.bind_apply, Exchange.own]

/-- A status is final exactly when it gives a verdict. -/
theorem verdictOf_isSome (status : Status) : (verdictOf status).isSome = status.isTerminal := by
  cases status <;> rfl

/-- Only acceptance gives the verdict that the ticket needs. -/
theorem verdictOf_eq_success_iff {status : Status} :
    verdictOf status = some .success ↔ status = .success := by
  cases status <;> simp [verdictOf]

/-! ## What the artifact becomes -/

/-- What an artifact becomes by the outcome of a wait, and what the wait comes to. -/
inductive Concluding (submission : Submission) (waited : Nat) (artifact : Artifact) :
    Outcome Verdict → Except TrustError Unit × Artifact → Prop
  | accepted {reached : Artifact}
      (advanced : artifact.advance (.verdict .success) = .ok reached) :
      Concluding submission waited artifact (.ready .success) (.ok (), reached)
  | rejected {status : String} {reached : Artifact}
      (advanced : artifact.advance (.verdict (.rejected status)) = .ok reached) :
      Concluding submission waited artifact (.ready (.rejected status))
        (.error (.rejected submission.trackingId status), reached)
  | unknown {status : String} {reached : Artifact}
      (advanced : artifact.advance (.verdict (.unknown status)) = .ok reached) :
      Concluding submission waited artifact (.ready (.unknown status))
        (.error (.rejected submission.trackingId status), reached)
  | timedOut {attempts : UInt32} {elapsed : Nat} {reached : Artifact}
      (advanced : artifact.advance
        (.verdict (.unknown ((submission.lastStatus.map Status.text).getD "none"))) =
          .ok reached) :
      Concluding submission waited artifact (.timedOut attempts elapsed)
        (.error (.timeout submission.trackingId waited), reached)
  | disordered {outcome : Outcome Verdict} {verdict : Verdict} {failure : TrustError}
      (disordered : artifact.advance (.verdict verdict) = .error failure) :
      Concluding submission waited artifact outcome (.error failure, artifact)
  | cancelled {attempts : UInt32} :
      Concluding submission waited artifact (.cancelled attempts)
        (.error (.cancelled .poll), artifact)

theorem conclude_ends (submission : Submission) (waited : Nat) (outcome : Outcome Verdict)
    (artifact : Artifact) (session : Session (World α)) :
    Concluding submission waited artifact outcome
        (conclude submission waited outcome artifact session).1 ∧
      (conclude submission waited outcome artifact session).2 = session := by
  match outcome with
  | .ready .success =>
      simp only [conclude, Work.update_apply]
      cases advanced : artifact.advance (.verdict .success) with
      | error failure => exact ⟨.disordered advanced, rfl⟩
      | ok reached => exact ⟨.accepted advanced, rfl⟩
  | .ready (.rejected status) =>
      simp only [conclude, Work.bind_apply, Work.update_apply]
      cases advanced : artifact.advance (.verdict (.rejected status)) with
      | error failure => exact ⟨.disordered advanced, rfl⟩
      | ok reached => exact ⟨.rejected advanced, rfl⟩
  | .ready (.unknown status) =>
      simp only [conclude, Work.bind_apply, Work.update_apply]
      cases advanced : artifact.advance (.verdict (.unknown status)) with
      | error failure => exact ⟨.disordered advanced, rfl⟩
      | ok reached => exact ⟨.unknown advanced, rfl⟩
  | .timedOut attempts elapsed =>
      simp only [conclude, Work.bind_apply, Work.update_apply]
      cases advanced : artifact.advance
        (.verdict (.unknown ((submission.lastStatus.map Status.text).getD "none"))) with
      | error failure => exact ⟨.disordered advanced, rfl⟩
      | ok reached => exact ⟨.timedOut advanced, rfl⟩
  | .cancelled attempts => exact ⟨.cancelled, rfl⟩

/-! ## The whole wait -/

/-- The schedule of a wait that begins in a session. -/
def verdictSchedule (pipeline : Pipeline α) (submission : Submission)
    (session : Session (World α)) : Schedule :=
  ⟨pipeline.settings.timings.pollInterval, submission.remaining session.now⟩

/-- How a wait ends: what it comes to, the submission, the artifact and the session. -/
inductive Awaiting (pipeline : Pipeline α) (submission : Submission) (artifact : Artifact)
    (session : Session (World α)) :
    Except TrustError Unit → Submission → Artifact → Session (World α) → Prop
  | uncredentialed {failure : TrustError}
      (uncredentialed : pipeline.credential = .error failure) :
      Awaiting pipeline submission artifact session (.error failure) submission artifact session
  | concluded {credential : Credential} {attempts : UInt32} {outcome : Outcome Verdict}
      {result : Except TrustError Unit} {reached : Artifact}
      {last final : Session (World α × Submission)}
      (credentialed : pipeline.credential = .ok credential)
      (polled : Session.Polled Session.noOverrun (pipeline.verdictSchedule submission session)
        (pipeline.probe (ε := TrustError) submission.trackingId credential) session.now 0
        (session.carrying submission) attempts last)
      (ended : Session.PollEnd Session.noOverrun (pipeline.verdictSchedule submission session)
        (pipeline.probe (ε := TrustError) submission.trackingId credential) session.now attempts
        last (.ok outcome, final))
      (concluding : Concluding final.world.2 (submission.remaining session.now) artifact
        outcome (result, reached)) :
      Awaiting pipeline submission artifact session result final.world.2 reached final.unloaded

theorem await_ends (pipeline : Pipeline α) (submission : Submission) (artifact : Artifact)
    (session : Session (World α)) :
    ∃ result watched reached after,
      (pipeline.await submission : Work α ε _) artifact session =
        ((.ok (result, watched), reached), after) ∧
      Awaiting pipeline submission artifact session result watched reached after := by
  simp only [await]
  cases credentialed : pipeline.credential with
  | error failure => exact ⟨_, _, _, _, rfl, .uncredentialed credentialed⟩
  | ok credential =>
    obtain ⟨attempts, last, polled, ended⟩ :=
      Session.poll_ends Session.noOverrun (pipeline.verdictSchedule submission session)
        (pipeline.probe (ε := TrustError) submission.trackingId credential)
        (session.carrying submission)
    simp only [watch, Act.bind_apply, Act.look_apply, Act.carrying, Act.pollToDate_apply,
      Act.pure_apply]
    rw [show Schedule.mk pipeline.settings.timings.pollInterval
      (submission.remaining session.now) = pipeline.verdictSchedule submission session from rfl]
    rcases polling : (session.carrying submission).poll Session.noOverrun
      (pipeline.verdictSchedule submission session)
      (pipeline.probe (ε := TrustError) submission.trackingId credential) with
      ⟨failure | outcome, final⟩
    · exfalso
      rw [polling] at ended
      cases ended with
      | failed _ answer => simp [exchange_probe] at answer
      | crashed _ _ _ untold => cases untold
    · rw [polling] at ended
      obtain ⟨concluding, same⟩ := conclude_ends final.world.2
        (submission.remaining session.now) outcome artifact final.unloaded
      rcases concluded : conclude final.world.2 (submission.remaining session.now) outcome artifact
        final.unloaded with ⟨⟨result, reached⟩, after⟩
      rw [concluded] at concluding same
      cases same
      simp only [concluded]
      exact ⟨_, _, _, _, rfl, .concluded credentialed polled ended concluding⟩

/-- What holds of a submission and stays when a reply is noted on it holds however a poll of the
authority ends. -/
theorem kept_of_polled {P : Submission → Prop} {pipeline : Pipeline α} {submission : Submission}
    {credential : Credential} {session : Session (World α)} {schedule : Schedule}
    {trackingId : TrackingId} {started : Nat} {attempts : UInt32}
    {last : Session (World α × Submission)}
    {ended : Except ε (Outcome Verdict) × Session (World α × Submission)}
    (polled : Session.Polled Session.noOverrun schedule
      (pipeline.probe (ε := ε) trackingId credential) started 0 (session.carrying submission)
      attempts last)
    (pollEnd : Session.PollEnd Session.noOverrun schedule
      (pipeline.probe (ε := ε) trackingId credential) started attempts last ended)
    (before : P submission)
    (noted : ∀ submission reply, P submission → P (submission.noteIn reply)) :
    P ended.2.world.2 := by
  have asked (attempts : UInt32) (session : Session (World α × Submission))
      (holds : P session.world.2) :
      P (Session.probed (pipeline.probe (ε := ε) trackingId credential) attempts
        session).world.2 := by
    rw [Session.probed, exchange_probe]
    exact noted _ _ holds
  have rests (session : Session (World α × Submission)) (span : Nat)
      (holds : P session.world.2) : P (session.rest span).world.2 :=
    holds
  exact pollEnd.keeps_throughout (P := fun later => P later.world.2) polled before asked rests

theorem Awaiting.keeps {P : Submission → Prop} {pipeline : Pipeline α}
    {submission watched : Submission} {artifact reached : Artifact}
    {session after : Session (World α)} {result : Except TrustError Unit}
    (awaiting : Awaiting pipeline submission artifact session result watched reached after)
    (before : P submission)
    (noted : ∀ submission reply, P submission → P (submission.noteIn reply)) : P watched := by
  cases awaiting with
  | uncredentialed => exact before
  | concluded _ polled ended => exact kept_of_polled polled ended before noted

/-- A wait whose poll has come to an end concludes from it. -/
theorem await_of_pollEnd {submission : Submission} {credential : Credential}
    {session : Session (World α)} {attempts : UInt32} {outcome : Outcome Verdict}
    {last final : Session (World α × Submission)} (pipeline : Pipeline α) (artifact : Artifact)
    (credentialed : pipeline.credential = .ok credential)
    (polled : Session.Polled Session.noOverrun (pipeline.verdictSchedule submission session)
      (pipeline.probe (ε := TrustError) submission.trackingId credential) session.now 0
      (session.carrying submission) attempts last)
    (ended : Session.PollEnd Session.noOverrun (pipeline.verdictSchedule submission session)
      (pipeline.probe (ε := TrustError) submission.trackingId credential) session.now attempts
      last (.ok outcome, final)) :
    pipeline.await (ε := ε) submission artifact session =
      let concluded := conclude final.world.2 (submission.remaining session.now) outcome artifact
        final.unloaded
      ((.ok (concluded.1.1, final.world.2), concluded.1.2), concluded.2) := by
  have polling : (session.carrying submission).poll Session.noOverrun
      (pipeline.verdictSchedule submission session)
      (pipeline.probe (ε := TrustError) submission.trackingId credential) = (.ok outcome, final) :=
    Session.poll_eq polled ended
  simp only [await, credentialed, watch, Act.bind_apply, Act.look_apply, Act.carrying,
    Act.pollToDate_apply, Act.pure_apply]
  rw [show Schedule.mk pipeline.settings.timings.pollInterval
    (submission.remaining session.now) = pipeline.verdictSchedule submission session from rfl,
    polling]
  rfl

end Pipeline

end Steward
