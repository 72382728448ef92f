import Steward.Proofs.Files.Route
import Steward.Proofs.Trust.Standing
import Steward.Proofs.Trust.WaitingAgain

/-!
# Where a fired token stops a run

A step that finds the token fired does nothing, and so does all that would
come after it.  What a run comes to whose token fires during a call depends on
the call alone: a call that failed or was refused is reported, and otherwise
the run stops before its next step with the markers of all steps that it has
done.  The last step has nothing after it that could be stopped.
-/

namespace Steward.Pipeline

variable {α : Type}

/-! ## Steps that find the token fired -/

section Fired

variable (pipeline : Pipeline α) {artifact : Artifact} {session : Session (World α)}
  (fired : session.isCancelled = true)
include fired

theorem bind_checkToken_of_fired {β : Type} (stage : Stage) (next : Unit → Work α TrustError β) :
    (Work.act (checkToken stage) >>= next) artifact session =
      ((.error (.cancelled stage), artifact), session) := by
  rw [Work.bind_apply, Work.act_apply, checkToken_apply, fired]

theorem sign_of_fired :
    pipeline.sign artifact session = ((.error (.cancelled .sign), artifact), session) :=
  bind_checkToken_of_fired fired .sign _

theorem verify_of_fired :
    pipeline.verify artifact session = (.error (.cancelled .verify), session) := by
  rw [verify, Act.bind_apply, checkToken_apply, fired]

theorem package_of_fired :
    pipeline.package artifact session = ((.error (.cancelled .package), artifact), session) :=
  bind_checkToken_of_fired fired .package _

theorem submit_of_fired (archive : Path) :
    pipeline.submit archive artifact session =
      ((.error (.cancelled .submit), artifact), session) :=
  bind_checkToken_of_fired fired .submit _

theorem await_of_fired {ε : Type} {credential : Credential}
    (credentialed : pipeline.credential = .ok credential) (submission : Submission) :
    pipeline.await (ε := ε) submission artifact session =
      ((.ok (.error (.cancelled .poll), submission), artifact), session) := by
  have ended : Session.PollEnd Session.noOverrun (pipeline.verdictSchedule submission session)
      (pipeline.probe (ε := TrustError) submission.trackingId credential) session.now 0
      (session.carrying submission) (.ok (.cancelled 0), session.carrying submission) :=
    .cancelled fired
  exact await_of_pollEnd pipeline artifact credentialed .start ended

theorem staple_of_fired :
    pipeline.staple artifact session = ((.error (.cancelled .staple), artifact), session) :=
  bind_checkToken_of_fired fired .staple _

/-- From an operation on nothing more is done than removing the archive. -/
theorem onward_of_fired {credential : Credential}
    (credentialed : pipeline.credential = .ok credential) (operation : Operation) :
    ∃ after, pipeline.onward operation artifact session =
        ((.error (operation.stage, .cancelled operation.stage), artifact), after) ∧
      after.world.agent = session.world.agent := by
  cases operation with
  | sign => exact ⟨_, pipeline.onward_sign_error (pipeline.sign_of_fired fired), rfl⟩
  | verify => exact ⟨_, pipeline.onward_verify_error (pipeline.verify_of_fired fired), rfl⟩
  | package => exact ⟨_, pipeline.onward_package_error (pipeline.package_of_fired fired), rfl⟩
  | submit archive =>
    exact ⟨_, pipeline.onward_submit_error (pipeline.submit_of_fired fired archive), rfl⟩
  | await submission =>
    exact ⟨_, pipeline.onward_await_error (pipeline.await_of_fired fired credentialed submission),
      rfl⟩
  | staple => exact ⟨_, pipeline.onward_staple_error (pipeline.staple_of_fired fired), rfl⟩

end Fired

/-! ## Operations that a run comes to -/

section Reaches

variable {pipeline : Pipeline α} {binary : Path} {origin : Session (World α)}
  {operation : Operation} {artifact : Artifact} {session : Recording α}

theorem Reaches.credentialed
    (reaches : pipeline.Reaches binary origin operation artifact session) :
    ∃ credential, pipeline.credential = .ok credential := by
  obtain ⟨-, -, checked⟩ := Except.bind_eq_ok_iff.1 reaches.checked
  obtain ⟨-, -, checked⟩ := Except.bind_eq_ok_iff.1 checked
  obtain ⟨credential, credentialed, -⟩ := Except.bind_eq_ok_iff.1 checked
  exact ⟨credential, Except.mapError_eq_ok_iff.1 credentialed⟩

/-- A run that comes to an operation when the token has fired stops there. -/
theorem Reaches.run_of_fired
    (reaches : pipeline.Reaches binary origin operation artifact session)
    (fired : session.isCancelled = true) :
    (pipeline.run binary origin).1 =
        .error ⟨operation.stage, some artifact, .cancelled operation.stage⟩ ∧
      pipeline.calls binary origin = session.journal := by
  obtain ⟨credential, credentialed⟩ := reaches.credentialed
  obtain ⟨after, stopped, same⟩ := pipeline.recorded.onward_of_fired fired
    (show pipeline.recorded.credential = .ok credential from credentialed) operation
  obtain ⟨result, calls⟩ := reaches.run_of_error stopped
  exact ⟨result, calls.trans (congrArg Prod.snd same)⟩

end Reaches

/-! ## What a run comes to -/

/-- A run fails at a step, and its artifact has the given markers. -/
def StopsAt (binary : Path) (markers : List Marker) (stage : Stage) (error : TrustError)
    (result : Except PipelineFailure Artifact) : Prop :=
  ∃ artifact, Marked binary markers artifact ∧ result = .error ⟨stage, some artifact, error⟩

/-- The markers of a binary that has been packed. -/
def packedCourse (binary : Path) : List Marker :=
  [.unsigned, .signed, .packaged (archivePath binary)]

/-- The markers of a binary that has been handed in. -/
def submittedCourse (binary : Path) (trackingId : TrackingId) : List Marker :=
  packedCourse binary ++ [.submitted trackingId]

/-- What a run comes to whose token has fired during the last call. -/
def StopsAfter (binary : Path) (overdue : Prop) (line : Line GatewayCall)
    (result : Except PipelineFailure Artifact) : Prop :=
  match line.call with
  | .sign _ _ _ (.error cause) =>
    StopsAt binary [.unsigned] .sign (.gateway .sign cause) result
  | .sign _ _ _ (.ok _) =>
    line.after.isFile binary = true →
      StopsAt binary [.unsigned, .signed] .verify (.cancelled .verify) result
  | .verify _ (.error cause) =>
    StopsAt binary [.unsigned, .signed] .verify (.inconsistentState binary cause.diagnostic)
      result
  | .verify _ (.ok _) =>
    StopsAt binary [.unsigned, .signed] .package (.cancelled .package) result
  | .package _ _ (.error cause) =>
    StopsAt binary [.unsigned, .signed] .package (.gateway .package cause) result
  | .package _ archive (.ok _) =>
    if line.after.isFile archive = true then
      StopsAt binary (packedCourse binary) .submit (.cancelled .submit) result
    else
      StopsAt binary [.unsigned, .signed] .package
        (.protocol .package ("no archive written at " ++ archive.text)) result
  | .submit _ _ _ (.error cause) =>
    StopsAt binary (packedCourse binary) .submit (.gateway .submit cause) result
  | .submit _ _ _ (.ok output) =>
    match Response.trackingId? output.combined with
    | some trackingId =>
      StopsAt binary (submittedCourse binary trackingId) .poll (.cancelled .poll) result
    | none =>
      StopsAt binary (packedCourse binary) .submit
        (.protocol .submit ("no submission id in response: " ++ output.combined)) result
  | .query trackingId _ answer =>
    match statusIn answer with
    | some .success =>
      StopsAt binary (submittedCourse binary trackingId ++ [.verdict .success]) .staple
        (.cancelled .staple) result
    | some (.invalid token) =>
      StopsAt binary (submittedCourse binary trackingId ++ [.verdict (.rejected token)]) .poll
        (.rejected trackingId token) result
    | _ =>
      (¬overdue → StopsAt binary (submittedCourse binary trackingId) .poll (.cancelled .poll)
        result) ∧
      (overdue → ∃ status waited,
        StopsAt binary (submittedCourse binary trackingId ++ [.verdict (.unknown status)]) .poll
          (.timeout trackingId waited) result)
  | .staple _ (.error cause) =>
    ∃ trackingId, StopsAt binary (submittedCourse binary trackingId ++ [.verdict .success])
      .staple (.gateway .staple cause) result
  | .staple _ (.ok _) =>
    line.after.isFile binary = true → ∃ artifact trackingId, result = .ok artifact ∧
      Marked binary (fullCourse binary trackingId) artifact

/-- A run makes no call after a line, and comes to what it then has to. -/
def EndsAfter (pipeline : Pipeline α) (binary : Path) (origin : Session (World α))
    (overdue : Prop) (journal : Journal GatewayCall) (line : Line GatewayCall) : Prop :=
  pipeline.calls binary origin = journal ++ [line] ∧
    StopsAfter binary overdue line (pipeline.run binary origin).1

/-! ## After each call -/

theorem eq_of_made {journal grown : Journal GatewayCall} {line other : Line GatewayCall}
    (made : grown = journal ++ [line]) (recorded : grown = journal ++ [other]) : line = other :=
  List.singleton_inj.1 (List.append_cancel_left (made.symm.trans recorded))

/-- The line that an exchange adds is its record. -/
theorem line_of_exchange {β : Type} (note : β → GatewayCall) {request : Exchange (World α) β}
    {session after : Recording α} {answer : β} {line : Line GatewayCall}
    (made : after.journal = session.journal ++ [line])
    (answered : session.exchange (request.recorded note) = (answer, after)) :
    line = ⟨note answer, session.world.files, after.world.files⟩ :=
  eq_of_made made (Session.journal_of_exchange note answered)

theorem not_made {journal : Journal GatewayCall} {line : Line GatewayCall} :
    journal ≠ journal ++ [line] := by
  simp

/-- The digest of a binary that is in its place can be taken. -/
theorem Marked.refresh_ne_error {binary : Path} {markers : List Marker} {artifact : Artifact}
    {files : FileSystem} {failure : TrustError} (marked : Marked binary markers artifact)
    (present : files.isFile binary = true) : artifact.refresh files ≠ .error failure := by
  obtain ⟨bytes, read⟩ := FileSystem.exists_read_of_isFile (marked.path.symm ▸ present)
  have hashed := Artifact.contentHash_eq_ok_iff.2 ⟨bytes, read, rfl⟩
  rw [Artifact.refresh_eq_ok_iff.2 ⟨_, hashed, rfl⟩]
  nofun

section Single

variable {pipeline : Pipeline α} {binary : Path} {origin : Session (World α)} {overdue : Prop}
  {artifact : Artifact} {session : Recording α} {line : Line GatewayCall}

theorem sign_endsAfter (reaches : pipeline.Reaches binary origin .sign artifact session)
    (made : (pipeline.recorded.sign artifact session).2.journal = session.journal ++ [line])
    (fired : (pipeline.recorded.sign artifact session).2.isCancelled = true) :
    EndsAfter pipeline binary origin overdue session.journal line := by
  have marked : Marked binary [.unsigned] artifact := reaches.stands
  have ends := sign_ends pipeline.recorded artifact session
  rcases signed : pipeline.recorded.sign artifact session with ⟨⟨result, reached⟩, after⟩
  rw [signed] at made fired ends
  dsimp only at made fired
  cases ends with
  | cancelled | unnamed | missing => exact absurd made not_made
  | @called identity _ _ _ rewriting =>
    cases rewriting with
    | refused answered =>
      obtain rfl := line_of_exchange
        (GatewayCall.sign artifact.path identity pipeline.settings.signing) made answered
      obtain ⟨failed, calls⟩ := reaches.run_of_error (pipeline.recorded.onward_sign_error signed)
      exact ⟨calls.trans made, artifact, marked, failed⟩
    | disordered _ disordered => exact absurd disordered (marked.not_disordered rfl rfl)
    | unreadable answered advanced unreadable =>
      obtain rfl := line_of_exchange
        (GatewayCall.sign artifact.path identity pipeline.settings.signing) made answered
      obtain ⟨-, calls⟩ := reaches.run_of_error (pipeline.recorded.onward_sign_error signed)
      have advanced := marked.advance advanced
      exact ⟨calls.trans made, fun present => absurd unreadable (advanced.refresh_ne_error present)⟩
    | done answered =>
      obtain rfl := line_of_exchange
        (GatewayCall.sign artifact.path identity pipeline.settings.signing) made answered
      have next := reaches.verify signed
      obtain ⟨failed, calls⟩ := next.run_of_fired fired
      exact ⟨calls.trans made, fun _ => ⟨reached, next.stands, failed⟩⟩

theorem verify_endsAfter (reaches : pipeline.Reaches binary origin .verify artifact session)
    (made : (pipeline.recorded.verify artifact session).2.journal = session.journal ++ [line])
    (fired : (pipeline.recorded.verify artifact session).2.isCancelled = true) :
    EndsAfter pipeline binary origin overdue session.journal line := by
  have marked : Marked binary [.unsigned, .signed] artifact := reaches.stands
  have ends := verify_ends pipeline.recorded artifact session
  rcases verified : pipeline.recorded.verify artifact session with ⟨result, after⟩
  rw [verified] at made fired ends
  dsimp only at made fired
  cases ends with
  | cancelled | missing => exact absurd made not_made
  | @refused cause _ _ answered =>
    obtain rfl := line_of_exchange (GatewayCall.verify artifact.path) made answered
    obtain ⟨failed, calls⟩ := reaches.run_of_error (pipeline.recorded.onward_verify_error verified)
    have signed : artifact.marker = .signed := marked.last rfl
    rw [brokenSignature, if_pos signed, marked.path] at failed
    exact ⟨calls.trans made, artifact, marked, failed⟩
  | done _ answered =>
    obtain rfl := line_of_exchange (GatewayCall.verify artifact.path) made answered
    have next := reaches.package verified
    obtain ⟨failed, calls⟩ := next.run_of_fired fired
    exact ⟨calls.trans made, artifact, marked, failed⟩

theorem package_endsAfter (reaches : pipeline.Reaches binary origin .package artifact session)
    (made : (pipeline.recorded.package artifact session).2.journal = session.journal ++ [line])
    (fired : (pipeline.recorded.package artifact session).2.isCancelled = true) :
    EndsAfter pipeline binary origin overdue session.journal line := by
  have marked : Marked binary [.unsigned, .signed] artifact := reaches.stands
  have ends := package_ends pipeline.recorded artifact session
  rcases packaged : pipeline.recorded.package artifact session with ⟨⟨result, reached⟩, after⟩
  rw [packaged] at made fired ends
  dsimp only at made fired
  cases ends with
  | cancelled | missing | sameFile | unclaimed => exact absurd made not_made
  | @failed archive failure _ after _ _ _ packing =>
    obtain ⟨stopped, calls⟩ :=
      reaches.run_of_error (pipeline.recorded.onward_package_error packaged)
    refine ⟨calls.trans made, ?_⟩
    -- Removing the archive makes no call.
    replace made : after.journal = (session.discarding archive).journal ++ [line] := made
    cases packing with
    | refused answered =>
      obtain rfl := line_of_exchange (GatewayCall.package artifact.path archive) made answered
      exact ⟨artifact, marked, stopped⟩
    | unwritten answered unwritten =>
      obtain rfl := line_of_exchange (GatewayCall.package artifact.path archive) made answered
      rw [StopsAfter]
      dsimp only
      rw [if_neg (by simp [unwritten])]
      exact ⟨artifact, marked, stopped⟩
    | disordered _ _ disordered => exact absurd disordered (marked.not_disordered rfl rfl)
  | @done archive _ after _ _ _ packing =>
    replace made : after.journal = (session.discarding archive).journal ++ [line] := made
    cases packing with
    | done answered written =>
      obtain rfl := line_of_exchange (GatewayCall.package artifact.path archive) made answered
      have next := reaches.submit packaged
      obtain ⟨stopped, calls⟩ := next.run_of_fired fired
      refine ⟨calls.trans made, ?_⟩
      rw [StopsAfter]
      dsimp only
      rw [if_pos written]
      exact ⟨reached, next.stands.2, stopped⟩

theorem submit_endsAfter {archive : Path}
    (reaches : pipeline.Reaches binary origin (.submit archive) artifact session)
    (made : (pipeline.recorded.submit archive artifact session).2.journal =
      session.journal ++ [line])
    (fired : (pipeline.recorded.submit archive artifact session).2.isCancelled = true) :
    EndsAfter pipeline binary origin overdue session.journal line := by
  have marked : Marked binary (packedCourse binary) artifact := reaches.stands.2
  have ends := submit_ends pipeline.recorded archive artifact session
  rcases handed : pipeline.recorded.submit archive artifact session with ⟨⟨result, reached⟩, after⟩
  rw [handed] at made fired ends
  dsimp only at made fired
  cases ends with
  | cancelled | unnamed | uncredentialed => exact absurd made not_made
  | @refused bundleId credential _ _ _ _ _ answered =>
    obtain rfl := line_of_exchange (GatewayCall.submit archive bundleId credential) made answered
    obtain ⟨stopped, calls⟩ := reaches.run_of_error (pipeline.recorded.onward_submit_error handed)
    exact ⟨calls.trans made, artifact, marked, stopped⟩
  | @unreadable bundleId credential output _ _ _ _ answered unreadable =>
    obtain rfl := line_of_exchange (GatewayCall.submit archive bundleId credential) made answered
    obtain ⟨stopped, calls⟩ := reaches.run_of_error (pipeline.recorded.onward_submit_error handed)
    refine ⟨calls.trans made, ?_⟩
    rw [StopsAfter]
    dsimp only
    rw [unreadable]
    exact ⟨artifact, marked, stopped⟩
  | disordered _ _ _ _ _ disordered => exact absurd disordered (marked.not_disordered rfl rfl)
  | @done bundleId credential output _ trackingId _ _ _ _ answered tracked =>
    obtain rfl := line_of_exchange (GatewayCall.submit archive bundleId credential) made answered
    have next := reaches.await handed
    obtain ⟨stopped, calls⟩ := next.run_of_fired fired
    refine ⟨calls.trans made, ?_⟩
    rw [StopsAfter]
    dsimp only
    rw [tracked]
    exact ⟨reached, next.stands, stopped⟩

theorem staple_endsAfter (reaches : pipeline.Reaches binary origin .staple artifact session)
    (made : (pipeline.recorded.staple artifact session).2.journal = session.journal ++ [line]) :
    EndsAfter pipeline binary origin overdue session.journal line := by
  obtain ⟨trackingId, marked⟩ := reaches.stands
  have ends := staple_ends pipeline.recorded artifact session
  rcases stapled : pipeline.recorded.staple artifact session with ⟨⟨result, reached⟩, after⟩
  rw [stapled] at made ends
  dsimp only at made
  cases ends with
  | cancelled | unaccepted | missing => exact absurd made not_made
  | called _ _ rewriting =>
    cases rewriting with
    | refused answered =>
      obtain rfl := line_of_exchange (GatewayCall.staple artifact.path) made answered
      obtain ⟨failed, calls⟩ :=
        reaches.run_of_error (pipeline.recorded.onward_staple_error stapled)
      exact ⟨calls.trans made, trackingId, artifact, marked, failed⟩
    | disordered _ disordered => exact absurd disordered (marked.not_disordered rfl rfl)
    | unreadable answered advanced unreadable =>
      obtain rfl := line_of_exchange (GatewayCall.staple artifact.path) made answered
      obtain ⟨-, calls⟩ := reaches.run_of_error (pipeline.recorded.onward_staple_error stapled)
      have advanced := marked.advance advanced
      exact ⟨calls.trans made, fun present => absurd unreadable (advanced.refresh_ne_error present)⟩
    | done answered advanced reread =>
      obtain rfl := line_of_exchange (GatewayCall.staple artifact.path) made answered
      obtain ⟨done, calls⟩ := reaches.run_of_ok (pipeline.recorded.onward_staple stapled)
      exact ⟨calls.trans made, fun _ =>
        ⟨reached, trackingId, done, (marked.advance advanced).refresh reread⟩⟩

end Single

section Query

variable {pipeline : Pipeline α} {binary : Path} {origin : Session (World α)}
  {submission : Submission} {credential : Credential} {artifact : Artifact} {session : Recording α}
  {attempts : UInt32} {last final : Session (World (α × Journal GatewayCall) × Submission)}
  {line : Line GatewayCall}

theorem conclude_accepted {trackingId : TrackingId}
    (submitted : artifact.marker = .submitted trackingId) (watched : Submission) (waited : Nat)
    (session : Session (World α)) :
    conclude watched waited (.ready .success) artifact session =
      ((.ok (), artifact.decided .success), session) := by
  simp only [conclude, Work.update_apply, Artifact.advance_eq_decided submitted]

theorem conclude_rejected {trackingId : TrackingId}
    (submitted : artifact.marker = .submitted trackingId) (watched : Submission) (waited : Nat)
    (status : String) (session : Session (World α)) :
    conclude watched waited (.ready (.rejected status)) artifact session =
      ((.error (.rejected watched.trackingId status), artifact.decided (.rejected status)),
        session) := by
  simp only [conclude, Work.bind_apply, Work.update_apply, Work.throw_apply,
    Artifact.advance_eq_decided submitted]

theorem conclude_timedOut {trackingId : TrackingId}
    (submitted : artifact.marker = .submitted trackingId) (watched : Submission)
    (waited : Nat) (made : UInt32) (elapsed : Nat) (session : Session (World α)) :
    ∃ status, conclude watched waited (.timedOut made elapsed) artifact session =
      ((.error (.timeout watched.trackingId waited), artifact.decided (.unknown status)),
        session) := by
  simp only [conclude, Work.bind_apply, Work.update_apply, Work.throw_apply,
    Artifact.advance_eq_decided submitted]
  exact ⟨_, rfl⟩

theorem Waits.marked
    (waits : pipeline.Waits binary origin submission credential artifact session attempts last) :
    Marked binary (submittedCourse binary submission.trackingId) artifact :=
  waits.reaches.stands

theorem Waits.submitted
    (waits : pipeline.Waits binary origin submission credential artifact session attempts last) :
    artifact.marker = .submitted submission.trackingId :=
  waits.marked.last rfl

/-- A wait that has come to an end concludes from it. -/
theorem Waits.await {outcome : Outcome Verdict}
    (waits : pipeline.Waits binary origin submission credential artifact session attempts last)
    (ended : Session.PollEnd Session.noOverrun
      (pipeline.recorded.verdictSchedule submission session)
      (pipeline.queries submission credential) session.now attempts last (.ok outcome, final)) :
    pipeline.recorded.await (ε := Stage × TrustError) submission artifact session =
      let concluded := conclude final.world.2 (submission.remaining session.now) outcome artifact
        final.unloaded
      ((.ok (concluded.1.1, final.world.2), concluded.1.2), concluded.2) :=
  await_of_pollEnd pipeline.recorded artifact
    (show pipeline.recorded.credential = .ok credential from waits.credentialed) waits.polled ended

/-- A wait that the token ends stops the run, which keeps the id of the submission. -/
theorem Waits.run_of_cancelled {made : UInt32}
    (waits : pipeline.Waits binary origin submission credential artifact session attempts last)
    (ended : Session.PollEnd Session.noOverrun
      (pipeline.recorded.verdictSchedule submission session)
      (pipeline.queries submission credential) session.now attempts last
      (.ok (.cancelled made), final)) :
    pipeline.calls binary origin = final.unloaded.journal ∧
      StopsAt binary (submittedCourse binary submission.trackingId) .poll (.cancelled .poll)
        (pipeline.run binary origin).1 := by
  obtain ⟨stopped, calls⟩ :=
    waits.reaches.run_of_error (pipeline.recorded.onward_await_error (waits.await ended))
  exact ⟨calls, artifact, waits.marked, stopped⟩

/-- A wait whose token has fired during a pending query ends with it. -/
theorem Waits.pending_endsAfter
    (waits : pipeline.Waits binary origin submission credential artifact session attempts last)
    (live : last.isCancelled = false)
    (pending : (last.exchange (pipeline.queries submission credential (attempts + 1))).1 =
      .ok none)
    (fired : (Session.probed (pipeline.queries submission credential) attempts
      last).isCancelled = true) :
    let queried := Session.probed (pipeline.queries submission credential) attempts last
    pipeline.calls binary origin = queried.unloaded.journal ∧
      (¬submission.deadline ≤ queried.now →
        StopsAt binary (submittedCourse binary submission.trackingId) .poll (.cancelled .poll)
          (pipeline.run binary origin).1) ∧
      (submission.deadline ≤ queried.now → ∃ status waited,
        StopsAt binary
          (submittedCourse binary submission.trackingId ++ [.verdict (.unknown status)]) .poll
          (.timeout submission.trackingId waited) (pipeline.run binary origin).1) := by
  intro queried
  have forward : session.now ≤ queried.now :=
    Nat.le_trans waits.polled.now_le (Session.now_le_probed attempts last)
  -- After a pending query the deadline is looked at first, and only then the token.
  by_cases late : submission.deadline ≤ queried.now
  · have ended : Session.PollEnd Session.noOverrun
        (pipeline.recorded.verdictSchedule submission session)
        (pipeline.queries submission credential) session.now attempts last
        (.ok (.timedOut (attempts + 1) (queried.now - session.now)), queried) :=
      .timedOut live pending (Nat.sub_le_sub_right late _)
    have awaited := waits.await ended
    obtain ⟨status, concluded⟩ := conclude_timedOut waits.submitted queried.world.2
      (submission.remaining session.now) (attempts + 1) (queried.now - session.now)
      queried.unloaded
    rw [concluded] at awaited
    obtain ⟨stopped, calls⟩ :=
      waits.reaches.run_of_error (pipeline.recorded.onward_await_error awaited)
    have same : queried.world.2.trackingId = submission.trackingId :=
      trackingId_of_polled waits.polled ended
    rw [same] at stopped
    refine ⟨calls, fun early => absurd late early, fun _ => ?_⟩
    have undecided := Artifact.advance_eq_decided waits.submitted (.unknown status)
    exact ⟨status, _, _, waits.marked.advance undecided, stopped⟩
  · have early : queried.now - session.now < submission.remaining session.now :=
      Nat.sub_lt_sub_right forward (Nat.lt_of_not_le late)
    have still : queried.restFor
        (Session.restAfter (pipeline.recorded.verdictSchedule submission session) session.now
          queried) = (false, queried) :=
      Session.restFor_of_fired fired _
    have ended : Session.PollEnd Session.noOverrun
        (pipeline.recorded.verdictSchedule submission session)
        (pipeline.queries submission credential) session.now attempts last
        (.ok (.cancelled (attempts + 1)),
          (queried.restFor (Session.restAfter (pipeline.recorded.verdictSchedule submission session)
            session.now queried)).2) :=
      .disturbed live pending early rfl (congrArg Prod.fst still)
    rw [still] at ended
    obtain ⟨calls, stopped⟩ := waits.run_of_cancelled ended
    exact ⟨calls, fun _ => stopped, fun overdue => absurd overdue late⟩

/-- A wait that is told acceptance brings the run on to the last step. -/
theorem Waits.staple
    (waits : pipeline.Waits binary origin submission credential artifact session attempts last)
    (live : last.isCancelled = false)
    (accepted : (last.exchange (pipeline.queries submission credential (attempts + 1))).1 =
      .ok (some .success)) :
    pipeline.Reaches binary origin .staple (artifact.decided .success)
        (Session.probed (pipeline.queries submission credential) attempts last).unloaded ∧
      Marked binary (submittedCourse binary submission.trackingId ++ [.verdict .success])
        (artifact.decided .success) := by
  have awaited := waits.await (.ready live accepted)
  rw [conclude_accepted waits.submitted] at awaited
  exact ⟨waits.reaches.staple awaited,
    waits.marked.advance (Artifact.advance_eq_decided waits.submitted .success)⟩

/-- A wait that is told refusal ends the run. -/
theorem Waits.run_of_rejected {status : String}
    (waits : pipeline.Waits binary origin submission credential artifact session attempts last)
    (live : last.isCancelled = false)
    (rejected : (last.exchange (pipeline.queries submission credential (attempts + 1))).1 =
      .ok (some (.rejected status))) :
    pipeline.calls binary origin =
        (Session.probed (pipeline.queries submission credential) attempts last).unloaded.journal ∧
      StopsAt binary
        (submittedCourse binary submission.trackingId ++ [.verdict (.rejected status)]) .poll
        (.rejected submission.trackingId status) (pipeline.run binary origin).1 := by
  have ended : Session.PollEnd Session.noOverrun
      (pipeline.recorded.verdictSchedule submission session)
      (pipeline.queries submission credential) session.now attempts last
      (.ok (.ready (.rejected status)),
        Session.probed (pipeline.queries submission credential) attempts last) :=
    .ready live rejected
  have awaited := waits.await ended
  rw [conclude_rejected waits.submitted, trackingId_of_polled waits.polled ended] at awaited
  obtain ⟨stopped, calls⟩ :=
    waits.reaches.run_of_error (pipeline.recorded.onward_await_error awaited)
  exact ⟨calls, _, waits.marked.advance (Artifact.advance_eq_decided waits.submitted _), stopped⟩

theorem query_endsAfter
    (waits : pipeline.Waits binary origin submission credential artifact session attempts last)
    (live : last.isCancelled = false)
    (made : (Session.probed (pipeline.queries submission credential) attempts
      last).unloaded.journal = last.unloaded.journal ++ [line])
    (fired : (Session.probed (pipeline.queries submission credential) attempts
      last).isCancelled = true) :
    EndsAfter pipeline binary origin
      (submission.deadline ≤
        (Session.probed (pipeline.queries submission credential) attempts last).now)
      last.unloaded.journal line := by
  obtain ⟨answer, files, later, journal, told⟩ :=
    pipeline.journal_probed submission.trackingId credential attempts last
  obtain rfl := eq_of_made made journal
  rw [EndsAfter, StopsAfter, ← made]
  dsimp only
  -- A failed query, an answer that cannot be read and a status that decides nothing are pending.
  have wait (undecided : (statusIn answer).bind verdictOf = none) :=
    waits.pending_endsAfter live (told.trans (congrArg Except.ok undecided)) fired
  cases status : statusIn answer with
  | none => exact wait (by rw [status]; rfl)
  | some status' =>
    rw [status] at told
    cases status' with
    | success =>
      obtain ⟨reaches, marked⟩ := waits.staple live told
      obtain ⟨stopped, calls⟩ := reaches.run_of_fired fired
      exact ⟨calls, _, marked, stopped⟩
    | invalid token => exact waits.run_of_rejected live told
    | inProgress | other => exact wait (by rw [status]; rfl)

end Query

end Steward.Pipeline
