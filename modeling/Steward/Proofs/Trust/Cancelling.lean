import Steward.Proofs.Trust.Archive
import Steward.Proofs.Trust.Stopping

/-!
# Runs whose token fires

A token may have fired before a run begins, and it may fire while a gateway is
called or while the run rests between two queries.  A run makes its calls only
while the token has not fired, so a call during which it fires is the last
one, and the run has then come to where that call stops it.
-/

namespace Steward.Pipeline

variable {α : Type}

/-! ## Calls of a run -/

/-- Whether an operation waits for a submission whose time is over. -/
def Operation.IsOverdue : Operation → Nat → Prop
  | .await submission, now => submission.deadline ≤ now
  | _, _ => False

/-- A run makes a call in one session, which is answered in another. -/
inductive Makes (pipeline : Pipeline α) (binary : Path) (origin : Session (World α)) :
    Operation → Recording α → Line GatewayCall → Recording α → Prop
  /-- An operation makes its only call. -/
  | single {operation : Operation} {artifact : Artifact} {session : Recording α}
      {line : Line GatewayCall}
      (reaches : pipeline.Reaches binary origin operation artifact session)
      (other : operation.stage ≠ .poll)
      (made : (pipeline.recorded.perform operation artifact session).2.journal =
        session.journal ++ [line]) :
      Makes pipeline binary origin operation session line
        (pipeline.recorded.perform operation artifact session).2
  /-- A wait makes another query. -/
  | query {submission : Submission} {credential : Credential} {artifact : Artifact}
      {session : Recording α} {attempts : UInt32}
      {last : Session (World (α × Journal GatewayCall) × Submission)} {line : Line GatewayCall}
      (waits : pipeline.Waits binary origin submission credential artifact session attempts last)
      (live : last.isCancelled = false)
      (made : (Session.probed (pipeline.queries submission credential) attempts
        last).unloaded.journal = last.unloaded.journal ++ [line]) :
      Makes pipeline binary origin (.await submission) last.unloaded line
        (Session.probed (pipeline.queries submission credential) attempts last).unloaded

/-! ## Every call of a run -/

/-- A call is one that the run makes, in a session whose token has not fired. -/
def MadeLive (pipeline : Pipeline α) (binary : Path) (origin : Session (World α))
    (earlier : Journal GatewayCall) (line : Line GatewayCall) : Prop :=
  ∃ operation session after, pipeline.Makes binary origin operation session line after ∧
    session.isCancelled = false ∧ session.journal = earlier

/-- At most one call is made from one session to another. -/
def CallsOnce (first last : Recording α) : Prop :=
  last.journal = first.journal ∨ ∃ line, last.journal = first.journal ++ [line]

section Once

variable (pipeline : Pipeline α) (artifact : Artifact) (session : Recording α)

theorem Rewriting.callsOnce {stage : Stage} {next : Marker} {artifact : Artifact}
    {session : Recording α} {left : Left (α × Journal GatewayCall) Unit}
    {request : Call (World α) ToolError ToolOutput}
    {note : Except ToolError ToolOutput → GatewayCall}
    (rewriting : Rewriting stage next (Exchange.recorded note request) artifact session left) :
    CallsOnce session left.2 := by
  cases rewriting with
  | refused answered | disordered answered | unreadable answered | done answered =>
    exact .inr ⟨_, Session.journal_of_exchange note answered⟩

theorem package_callsOnce : CallsOnce session (pipeline.recorded.package artifact session).2 := by
  have ends := package_ends pipeline.recorded artifact session
  generalize pipeline.recorded.package artifact session = left at ends ⊢
  cases ends with
  | cancelled | missing | sameFile | unclaimed => exact .inl rfl
  | failed _ _ _ packing | done _ _ _ packing =>
    obtain ⟨answer, journal⟩ := packing.called
    exact .inr ⟨_, journal⟩

theorem submit_callsOnce (archive : Path) :
    CallsOnce session (pipeline.recorded.submit archive artifact session).2 := by
  have ends := submit_ends pipeline.recorded archive artifact session
  generalize pipeline.recorded.submit archive artifact session = left at ends ⊢
  cases ends with
  | cancelled | unnamed | uncredentialed => exact .inl rfl
  | @refused bundleId credential _ _ _ _ _ answered
  | @unreadable bundleId credential _ _ _ _ _ answered
  | @disordered bundleId credential _ _ _ _ _ _ _ answered
  | @done bundleId credential _ _ _ _ _ _ _ answered =>
    exact .inr ⟨_, Session.journal_of_exchange
      (GatewayCall.submit archive bundleId credential) answered⟩

/-- An operation that does not wait makes at most one call. -/
theorem perform_callsOnce {operation : Operation} (other : operation.stage ≠ .poll) :
    CallsOnce session (pipeline.recorded.perform operation artifact session).2 := by
  cases operation with
  | sign =>
    have ends := sign_ends pipeline.recorded artifact session
    rw [perform]
    generalize pipeline.recorded.sign artifact session = left at ends ⊢
    cases ends with
    | cancelled | unnamed | missing => exact .inl rfl
    | called _ _ rewriting => exact rewriting.callsOnce
  | verify =>
    have ends := verify_ends pipeline.recorded artifact session
    show CallsOnce session (pipeline.recorded.verify artifact session).2
    generalize pipeline.recorded.verify artifact session = left at ends ⊢
    cases ends with
    | cancelled | missing => exact .inl rfl
    | refused _ answered | done _ answered =>
      exact .inr ⟨_, Session.journal_of_exchange (GatewayCall.verify artifact.path) answered⟩
  | package =>
    rw [perform, Work.bind_pure_apply]
    exact pipeline.package_callsOnce artifact session
  | submit archive =>
    rw [perform, Work.bind_pure_apply]
    exact pipeline.submit_callsOnce artifact session archive
  | await submission => exact absurd rfl other
  | staple =>
    have ends := staple_ends pipeline.recorded artifact session
    rw [perform]
    generalize pipeline.recorded.staple artifact session = left at ends ⊢
    cases ends with
    | cancelled | unaccepted | missing => exact .inl rfl
    | called _ _ rewriting => exact rewriting.callsOnce

/-- An operation that finds the token fired makes no call. -/
theorem perform_of_fired {session : Recording α} {operation : Operation}
    (other : operation.stage ≠ .poll) (fired : session.isCancelled = true) :
    (pipeline.recorded.perform operation artifact session).2 = session := by
  cases operation with
  | sign => rw [perform, sign_of_fired _ fired]
  | verify =>
    show (pipeline.recorded.verify artifact session).2 = session
    rw [verify_of_fired _ fired]
  | package => rw [perform, Work.bind_pure_apply, package_of_fired _ fired]
  | submit archive => rw [perform, Work.bind_pure_apply, submit_of_fired _ fired]
  | await submission => exact absurd rfl other
  | staple => rw [perform, staple_of_fired _ fired]

end Once

section Live

variable {pipeline : Pipeline α} {binary : Path} {origin : Session (World α)}
  {operation : Operation} {submission : Submission} {credential : Credential}
  {artifact : Artifact} {session : Recording α} {attempts : UInt32}
  {last : Session (World (α × Journal GatewayCall) × Submission)}

/-- Every line of a session's journal is a call of the run, made while the token had not fired. -/
abbrev AllLive (pipeline : Pipeline α) (binary : Path) (origin : Session (World α))
    (session : Recording α) : Prop :=
  session.journal.Each (MadeLive pipeline binary origin)

theorem perform_allLive
    (reaches : pipeline.Reaches binary origin operation artifact session)
    (other : operation.stage ≠ .poll) (before : AllLive pipeline binary origin session) :
    AllLive pipeline binary origin
      (pipeline.recorded.perform operation artifact session).2 := by
  cases fired : session.isCancelled with
  | true =>
    rw [pipeline.perform_of_fired artifact other fired]
    exact before
  | false =>
    rcases pipeline.perform_callsOnce artifact session other with same | ⟨line, made⟩
    · rw [AllLive, same]
      exact before
    · rw [AllLive, made]
      exact Journal.each_concat.2
        ⟨before, operation, session, _, .single reaches other made, fired, rfl⟩

theorem Waits.probed_allLive
    (waits : pipeline.Waits binary origin submission credential artifact session attempts last)
    (live : last.isCancelled = false) (before : AllLive pipeline binary origin last.unloaded) :
    AllLive pipeline binary origin
      (Session.probed (pipeline.queries submission credential) attempts last).unloaded := by
  obtain ⟨answer, files, later, made, -⟩ :=
    pipeline.journal_probed submission.trackingId credential attempts last
  rw [AllLive, made]
  exact Journal.each_concat.2 ⟨before, _, _, _, .query waits live made, live, rfl⟩

/-- A rest makes no call. -/
theorem allLive_restFor {queried : Session (World (α × Journal GatewayCall) × Submission)}
    (before : AllLive pipeline binary origin queried.unloaded) (span : Nat) :
    AllLive pipeline binary origin (queried.restFor span).2.unloaded := by
  rw [AllLive, Session.journal, Session.unloaded]
  dsimp only
  rw [Session.world_restFor]
  exact before

theorem Waits.allLive
    (waits : pipeline.Waits binary origin submission credential artifact session attempts last)
    (before : AllLive pipeline binary origin session) :
    AllLive pipeline binary origin last.unloaded := by
  obtain ⟨reaches, credentialed, polled⟩ := waits
  induction polled with
  | start => exact before
  | again earlier live _ _ _ _ inductionHypothesis =>
    have waits : pipeline.Waits binary origin submission credential artifact session _ _ :=
      ⟨reaches, credentialed, earlier⟩
    exact allLive_restFor (waits.probed_allLive live inductionHypothesis) _

theorem Awaiting.allLive {result : Except TrustError Unit} {watched : Submission}
    {reached : Artifact} {after : Recording α}
    (awaiting : Awaiting pipeline.recorded submission artifact session result watched reached after)
    (reaches : pipeline.Reaches binary origin (.await submission) artifact session)
    (before : AllLive pipeline binary origin session) : AllLive pipeline binary origin after := by
  cases awaiting with
  | uncredentialed => exact before
  | concluded credentialed polled ended =>
    have waits : pipeline.Waits binary origin submission _ artifact session _ _ :=
      ⟨reaches, credentialed, polled⟩
    have earlier := waits.allLive before
    cases ended with
    | cancelled => exact earlier
    | ready live | timedOut live => exact waits.probed_allLive live earlier
    | disturbed live => exact allLive_restFor (waits.probed_allLive live earlier) _

/-- All calls from an operation on are made while the token has not fired. -/
theorem onward_allLive (operation : Operation) (artifact : Artifact) (session : Recording α)
    (reaches : pipeline.Reaches binary origin operation artifact session)
    (before : AllLive pipeline binary origin session) :
    AllLive pipeline binary origin
      (pipeline.recorded.onward operation artifact session).2 := by
  induction operation using onward.induct generalizing artifact session with
  | case1 inductionHypothesis =>
    have after := perform_allLive reaches (by rintro ⟨⟩) before
    rw [perform] at after
    rcases signed : pipeline.recorded.sign artifact session with ⟨⟨failure | _, reached⟩, later⟩
    · rw [signed] at after
      rw [onward_sign_error _ signed]
      exact after
    · rw [signed] at after
      rw [onward_sign _ signed]
      exact inductionHypothesis reached later (reaches.verify signed) after
  | case2 inductionHypothesis =>
    have after : AllLive pipeline binary origin (pipeline.recorded.verify artifact session).2 :=
      perform_allLive reaches (by rintro ⟨⟩) before
    rcases verified : pipeline.recorded.verify artifact session with ⟨failure | _, later⟩
    · rw [verified] at after
      rw [onward_verify_error _ verified]
      exact after
    · rw [verified] at after
      rw [onward_verify _ verified]
      exact inductionHypothesis artifact later (reaches.package verified) after
  | case3 inductionHypothesis =>
    have after := perform_allLive reaches (by rintro ⟨⟩) before
    rw [perform, Work.bind_pure_apply] at after
    rcases packed : pipeline.recorded.package artifact session with
      ⟨⟨failure | archive, reached⟩, later⟩
    · rw [packed] at after
      rw [onward_package_error _ packed]
      exact after
    · rw [packed] at after
      rw [onward_package _ packed]
      exact inductionHypothesis archive reached later (reaches.submit packed) after
  | case4 archive inductionHypothesis =>
    have after := perform_allLive reaches (by rintro ⟨⟩) before
    rw [perform, Work.bind_pure_apply] at after
    rcases handed : pipeline.recorded.submit archive artifact session with
      ⟨⟨failure | submission, reached⟩, later⟩
    · rw [handed] at after
      rw [onward_submit_error _ handed]
      exact after
    · rw [handed] at after
      rw [onward_submit _ handed]
      exact inductionHypothesis submission reached _ (reaches.await handed) after
  | case5 submission inductionHypothesis =>
    obtain ⟨result, watched, reached, later, awaited, awaiting⟩ :=
      await_ends (ε := Stage × TrustError) pipeline.recorded submission artifact session
    have after := awaiting.allLive reaches before
    cases result with
    | error failure =>
      rw [onward_await_error _ awaited]
      exact after
    | ok _ =>
      rw [onward_await _ awaited]
      exact inductionHypothesis reached later (reaches.staple awaited) after
  | case6 =>
    have after := perform_allLive reaches (by rintro ⟨⟩) before
    rw [perform] at after
    rcases stapled : pipeline.recorded.staple artifact session with ⟨⟨failure | _, reached⟩, later⟩
    · rw [stapled] at after
      rw [onward_staple_error _ stapled]
      exact after
    · rw [stapled] at after
      rw [onward_staple _ stapled]
      exact after

/-- Every call of a run is made while the token has not fired. -/
theorem calls_live (pipeline : Pipeline α) (binary : Path) (origin : Session (World α)) :
    (pipeline.calls binary origin).Each (MadeLive pipeline binary origin) := by
  have ends := run_ends pipeline.recorded binary origin.recording
  rw [calls]
  generalize pipeline.recorded.run binary origin.recording = left at ends ⊢
  have steps {artifact : Artifact} (checked : pipeline.check binary = .ok ())
      (opened : Artifact.track origin.world.files binary = .ok artifact) :
      AllLive pipeline binary origin (pipeline.recorded.steps artifact origin.recording).2 := by
    rw [steps_eq_onward]
    exact onward_allLive .sign artifact origin.recording (.sign checked opened) Journal.each_nil
  cases ends with
  | unprepared | unopened => exact Journal.each_nil
  | failed checked opened stopped | done checked opened stopped =>
    have after := steps checked opened
    rw [stopped] at after
    exact after

end Live

/-! ## Every run -/

/-- What a run comes to whose token has fired before. -/
def resultOfFired (pipeline : Pipeline α) (binary : Path) (files : FileSystem) :
    Except PipelineFailure Artifact :=
  match pipeline.check binary with
  | .error (stage, failure) => .error ⟨stage, none, failure⟩
  | .ok () =>
    match Artifact.track files binary with
    | .error failure => .error ⟨.sign, none, failure⟩
    | .ok artifact => .error ⟨.sign, some artifact, .cancelled .sign⟩

/-- A run stops where its token fires. -/
structure HeedsToken (pipeline : Pipeline α) (binary : Path) (origin : Session (World α)) :
    Prop where
  /-- A run whose token has fired before makes no call, and tells what it would tell before its
  first call or that it does not sign. -/
  before : origin.isCancelled = true → pipeline.calls binary origin = [] ∧
    (pipeline.run binary origin).1 = pipeline.resultOfFired binary origin.world.files
  /-- Each call is one that the run makes while the token has not fired. -/
  live : (pipeline.calls binary origin).Each (MadeLive pipeline binary origin)
  /-- A call during which the token fires is the last one, and decides what the run comes to. -/
  during : ∀ operation session line after,
    pipeline.Makes binary origin operation session line after → after.isCancelled = true →
      EndsAfter pipeline binary origin (operation.IsOverdue after.now) session.journal line
  /-- A wait that the token ends, be it during a rest, stops the run without another query. -/
  waiting : ∀ submission credential artifact session attempts last made final,
    pipeline.Waits binary origin submission credential artifact session attempts last →
      Session.PollEnd Session.noOverrun (pipeline.recorded.verdictSchedule submission session)
        (pipeline.queries submission credential) session.now attempts last
        (.ok (.cancelled made), final) →
      pipeline.calls binary origin = final.unloaded.journal ∧
        StopsAt binary (submittedCourse binary submission.trackingId) .poll (.cancelled .poll)
          (pipeline.run binary origin).1
  /-- No archive is left, however the run ends, if the calls are tidy. -/
  tidied : CallsPackager (pipeline.calls binary origin) →
    AllTidy (archivePath binary) (pipeline.calls binary origin) →
      (pipeline.run binary origin).2.world.files.IsVacant (archivePath binary)

theorem makes_endsAfter {pipeline : Pipeline α} {binary : Path} {origin : Session (World α)}
    {operation : Operation} {session after : Recording α} {line : Line GatewayCall}
    (makes : pipeline.Makes binary origin operation session line after)
    (fired : after.isCancelled = true) :
    EndsAfter pipeline binary origin (operation.IsOverdue after.now) session.journal line := by
  cases makes with
  | query waits live made => exact query_endsAfter waits live made fired
  | single reaches other made =>
    cases operation with
    | sign => exact sign_endsAfter reaches made fired
    | verify => exact verify_endsAfter reaches made fired
    | package =>
      rw [perform, Work.bind_pure_apply] at made fired
      exact package_endsAfter reaches made fired
    | submit archive =>
      rw [perform, Work.bind_pure_apply] at made fired
      exact submit_endsAfter reaches made fired
    | await submission => exact absurd rfl other
    | staple => exact staple_endsAfter reaches made

/-- A run whose token has fired before makes no call. -/
theorem run_of_fired (pipeline : Pipeline α) (binary : Path) {origin : Session (World α)}
    (fired : origin.isCancelled = true) :
    pipeline.calls binary origin = [] ∧
      (pipeline.run binary origin).1 = pipeline.resultOfFired binary origin.world.files := by
  rw [resultOfFired]
  cases checked : pipeline.check binary with
  | error failure =>
    obtain ⟨told, calls⟩ := run_of_running (.unprepared checked)
    exact ⟨calls, told⟩
  | ok _ =>
    cases opened : Artifact.track origin.world.files binary with
    | error failure =>
      obtain ⟨told, calls⟩ := run_of_running (.unopened checked opened)
      exact ⟨calls, told⟩
    | ok artifact =>
      obtain ⟨told, calls⟩ := (Reaches.sign checked opened).run_of_fired fired
      exact ⟨calls, told⟩

/-- Wherever the token fires, a run makes no call from there on. -/
theorem run_heedsToken (pipeline : Pipeline α) (binary : Path) (origin : Session (World α)) :
    HeedsToken pipeline binary origin where
  before := pipeline.run_of_fired binary
  live := calls_live pipeline binary origin
  during _ _ _ _ := makes_endsAfter
  waiting _ _ _ _ _ _ _ _ := Waits.run_of_cancelled
  tidied := by
    rw [files_run, calls]
    have settled := (archive_phases binary _ origin.world.files).run_settles pipeline rfl origin
      (untouched_recording origin)
    intro called tidy
    rcases settled with untouched | cleared
    · exact absurd called untouched.uncalled
    · exact cleared.vacant tidy

/-- Gateways that write an archive and take it, and a token that fires as it is taken. -/
def interrupted : Pipeline Unit :=
  { idle with
    packager := fun _ archive world =>
      match world.files.writeText archive "archive" with
      | .ok files => ⟨.ok (), ⟨files, ()⟩, 0, false⟩
      | .error failure => ⟨.error (.spawn "zip" failure), world, 0, false⟩
    notary :=
      { idle.notary with submit := fun _ _ _ world => ⟨.ok ⟨"id: id-1", ""⟩, world, 0, true⟩ } }

example : (interrupted.run ⟨"/agent"⟩ besideArchive).1 =
    .error ⟨.poll, some ⟨⟨"/agent"⟩, Sha256.hexDigest .empty,
      [.unsigned, .signed, .packaged ⟨"/agent.zip"⟩], .submitted ⟨"id-1"⟩⟩, .cancelled .poll⟩ := by
  decide +kernel

end Steward.Pipeline
