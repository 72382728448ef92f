import Steward.Proofs.Trust.Failures
import Steward.Proofs.Trust.Replies

/-!
# Asking once

A binary that was submitted earlier gets its ticket by a single query: the
ticket is attached if the reply accepts the submission, and otherwise the
reply is the failure.  A wait for the same submission that hears nothing more
than that reply decides alike.
-/

namespace Steward

variable {α ω ε β : Type}

theorem Act.mk_pure_apply (result : Except ε β) (session : Session ω) :
    (ExceptT.mk (pure result) : Act ω ε β) session = (result, session) :=
  rfl

namespace Pipeline

variable {pipeline : Pipeline α} {submission : Submission} {credential : Credential}
  {trackingId : TrackingId} {binary : Path} {artifact reached : Artifact}
  {origin session asked after : Session (World α)} {output : ToolOutput}
  {result : Except TrustError Unit} {replies : List QueryReply}

/-! ## Recording -/

theorem queryStatus_refines (pipeline : Pipeline α) (trackingId : TrackingId) :
    Act.Refines World.unrecorded (pipeline.recorded.queryStatus trackingId)
      (pipeline.queryStatus trackingId) := by
  apply Act.Refines.bind (fun _ => rfl)
  intro credential
  apply Act.Refines.bind (.ask _ (Exchange.recorded_refines _ _))
  intro output
  dsimp only
  cases Response.statusToken? output.combined with
  | none => exact .throw _
  | some token => exact .pure _

theorem stapleBy_refines (pipeline : Pipeline α) (trackingId : TrackingId) (status : Status) :
    Work.Refines World.unrecorded (pipeline.recorded.stapleBy trackingId status)
      (pipeline.stapleBy trackingId status) :=
  match status with
  | .success => .bind (.update _) fun _ => pipeline.staple_refines
  | .invalid _ => .bind (.update _) fun _ => .throw _
  | .inProgress | .other _ => .throw _

theorem stapleSubmitted_refines (pipeline : Pipeline α) (binary : Path)
    (trackingId : TrackingId) :
    Act.Refines World.unrecorded (pipeline.recorded.stapleSubmitted binary trackingId)
      (pipeline.stapleSubmitted binary trackingId) := by
  apply Act.Refines.bind .files
  intro files
  apply Act.Refines.bind (fun _ => rfl)
  intro artifact
  apply Act.Refines.bind (pipeline.queryStatus_refines trackingId)
  intro status session
  dsimp only
  rw [pipeline.stapleBy_refines trackingId status artifact session]
  rcases pipeline.recorded.stapleBy trackingId status artifact session with
    ⟨⟨failure | _, reached⟩, after⟩ <;> rfl

/-! ## By the status in the reply -/

theorem queryStatus_eq (credentialed : pipeline.credential = .ok credential)
    (answered : session.exchange (pipeline.notary.query trackingId credential) =
      (.ok output, asked)) :
    pipeline.queryStatus trackingId session =
      (match statusIn (.ok output) with
        | some status => .ok status
        | none => .error (.protocol .poll ("no status in response: " ++ output.combined)),
        asked) := by
  simp only [queryStatus, Act.bind_apply, Act.mk_pure_apply, credentialed, ask_apply, answered,
    Except.mapError_ok, statusIn]
  cases Response.statusToken? output.combined <;> rfl

/-- How a single query ends. -/
inductive Querying (pipeline : Pipeline α) (trackingId : TrackingId) (session : Session (World α)) :
    Except TrustError Status × Session (World α) → Prop
  | uncredentialed {failure : TrustError} (uncredentialed : pipeline.credential = .error failure) :
      Querying pipeline trackingId session (.error failure, session)
  | refused {credential : Credential} {cause : ToolError} {asked : Session (World α)}
      (credentialed : pipeline.credential = .ok credential)
      (answered : session.exchange (pipeline.notary.query trackingId credential) =
        (.error cause, asked)) :
      Querying pipeline trackingId session (.error (.gateway .poll cause), asked)
  | silent {credential : Credential} {output : ToolOutput} {asked : Session (World α)}
      (credentialed : pipeline.credential = .ok credential)
      (answered : session.exchange (pipeline.notary.query trackingId credential) =
        (.ok output, asked))
      (silent : statusIn (.ok output) = none) :
      Querying pipeline trackingId session
        (.error (.protocol .poll ("no status in response: " ++ output.combined)), asked)
  | told {credential : Credential} {output : ToolOutput} {status : Status}
      {asked : Session (World α)} (credentialed : pipeline.credential = .ok credential)
      (answered : session.exchange (pipeline.notary.query trackingId credential) =
        (.ok output, asked))
      (told : statusIn (.ok output) = some status) :
      Querying pipeline trackingId session (.ok status, asked)

theorem queryStatus_ends (pipeline : Pipeline α) (trackingId : TrackingId)
    (session : Session (World α)) :
    Querying pipeline trackingId session (pipeline.queryStatus trackingId session) := by
  cases credentialed : pipeline.credential with
  | error failure =>
    simp only [queryStatus, Act.bind_apply, Act.mk_pure_apply, credentialed]
    exact .uncredentialed credentialed
  | ok credential =>
    rcases answered : session.exchange (pipeline.notary.query trackingId credential) with
      ⟨cause | output, asked⟩
    · simp only [queryStatus, Act.bind_apply, Act.mk_pure_apply, credentialed, ask_apply, answered,
        Except.mapError_error]
      exact .refused credentialed answered
    · rw [queryStatus_eq credentialed answered]
      cases told : statusIn (.ok output) with
      | none => exact .silent credentialed answered told
      | some status => exact .told credentialed answered told

/-- What a single query leads to, by the status that its reply tells. -/
theorem stapleSubmitted_eq (pipeline : Pipeline α) (session : Session (World α))
    (credentialed : pipeline.credential = .ok credential)
    (adopted : Artifact.adopt trackingId session.world.files binary = .ok artifact)
    (answered : session.exchange (pipeline.notary.query trackingId credential) =
      (.ok output, asked)) :
    pipeline.stapleSubmitted binary trackingId session =
      match statusIn (.ok output) with
      | none => (.error (.protocol .poll ("no status in response: " ++ output.combined)), asked)
      | some status =>
        ((pipeline.stapleBy trackingId status artifact asked).1.1.map
            fun _ => (pipeline.stapleBy trackingId status artifact asked).1.2,
          (pipeline.stapleBy trackingId status artifact asked).2) := by
  simp only [stapleSubmitted, Act.bind_apply, Act.files_apply, Act.mk_pure_apply, adopted,
    queryStatus_eq credentialed answered]
  cases statusIn (.ok output) with
  | none => rfl
  | some status =>
    dsimp only
    rcases pipeline.stapleBy trackingId status artifact asked with
      ⟨⟨failure | _, reached⟩, after⟩ <;> rfl

theorem stapleBy_success (submitted : artifact.marker = .submitted trackingId) :
    pipeline.stapleBy trackingId .success artifact session =
      pipeline.staple (artifact.decided .success) session := by
  rw [stapleBy, Work.bind_apply, Work.update_apply, Artifact.advance_eq_decided submitted]

theorem stapleBy_invalid {token : String} (submitted : artifact.marker = .submitted trackingId) :
    pipeline.stapleBy trackingId (.invalid token) artifact session =
      ((.error (.rejected trackingId token), artifact.decided (.rejected token)), session) := by
  rw [stapleBy, Work.bind_apply, Work.update_apply, Artifact.advance_eq_decided submitted]
  rfl

theorem stapleBy_of_pending {status : Status} (pending : status.isTerminal = false) :
    pipeline.stapleBy trackingId status artifact session =
      ((.error (.notApproved trackingId status.text), artifact), session) := by
  cases status with
  | success | invalid => simp [Status.isTerminal] at pending
  | inProgress | other => rfl

/-- Attaching a ticket is never refused in the authority's name. -/
theorem staple_ne_rejected (pipeline : Pipeline α) (artifact : Artifact)
    (session : Session (World α)) (trackingId : TrackingId) (token : String) :
    (pipeline.staple artifact session).1.1 ≠ .error (.rejected trackingId token) := by
  have stapling := staple_ends pipeline artifact session
  generalize pipeline.staple artifact session = left at stapling ⊢
  cases stapling with
  | cancelled | unaccepted | missing => simp
  | called _ _ rewriting =>
    cases rewriting with
    | refused | done => simp
    | disordered _ disordered =>
      rintro ⟨⟩
      exact (isOwn_of_advance disordered).elim
    | unreadable _ _ unreadable =>
      rintro ⟨⟩
      exact (isOwn_of_contentHash (contentHash_of_refresh unreadable)).elim

/-- A recorded tool that rewrites the binary is called once. -/
theorem Rewriting.noted {stage : Stage} {next : Marker} {artifact : Artifact}
    {session : Session (World (α × Journal GatewayCall))}
    {left : Left (α × Journal GatewayCall) Unit} {request : Call (World α) ToolError ToolOutput}
    {note : Except ToolError ToolOutput → GatewayCall}
    (rewriting : Rewriting stage next (Exchange.recorded note request) artifact session left) :
    ∃ answer, left.2.journal.map Line.call = session.journal.map Line.call ++ [note answer] := by
  cases rewriting with
  | refused answered | disordered answered | unreadable answered | done answered =>
    rw [Session.journal_of_exchange note answered, List.map_append]
    exact ⟨_, rfl⟩

/-- The calls of a single query and what it comes to. -/
inductive AsksOnce (trackingId : TrackingId) (credential : Credential) (binary : Path)
    (output : ToolOutput) : Except TrustError Artifact → List GatewayCall → Prop
  | accepted {single : Except TrustError Artifact} {answer : Except ToolError ToolOutput}
      (told : statusIn (.ok output) = some .success)
      (unrefused : ∀ trackingId token, single ≠ .error (.rejected trackingId token)) :
      AsksOnce trackingId credential binary output single
        [.query trackingId credential (.ok output), .staple binary answer]
  | refused {token : String} (told : statusIn (.ok output) = some (.invalid token)) :
      AsksOnce trackingId credential binary output (.error (.rejected trackingId token))
        [.query trackingId credential (.ok output)]
  | pending {status : Status} (told : statusIn (.ok output) = some status)
      (pending : status.isTerminal = false) :
      AsksOnce trackingId credential binary output (.error (.notApproved trackingId status.text))
        [.query trackingId credential (.ok output)]
  | silent (silent : statusIn (.ok output) = none) :
      AsksOnce trackingId credential binary output
        (.error (.protocol .poll ("no status in response: " ++ output.combined)))
        [.query trackingId credential (.ok output)]

theorem stapleSubmitted_asksOnce (pipeline : Pipeline α)
    (credentialed : pipeline.credential = .ok credential)
    (adopted : Artifact.adopt trackingId session.world.files binary = .ok artifact)
    (answered : session.exchange (pipeline.notary.query trackingId credential) =
      (.ok output, asked))
    (live : asked.isCancelled = false) (present : asked.world.files.isFile binary = true) :
    AsksOnce trackingId credential binary output
      (pipeline.stapleSubmitted binary trackingId session).1
      ((pipeline.recorded.stapleSubmitted binary trackingId
        session.recording).2.journal.map Line.call) := by
  obtain ⟨queried, alike⟩ : ∃ queried, queried.through World.unrecorded = asked ∧
      session.recording.exchange (pipeline.recorded.notary.query trackingId credential) =
        (.ok output, queried) := by
    have recorded := Session.exchange_through (Exchange.recorded_refines
      (GatewayCall.query trackingId credential)
      (pipeline.notary.query trackingId credential)) session.recording
    rw [Session.recording_through, answered] at recorded
    exact ⟨_, (congrArg Prod.snd recorded).symm, Prod.ext (congrArg Prod.fst recorded).symm rfl⟩
  obtain ⟨rfl, recorded⟩ := alike
  have asked : queried.journal.map Line.call = [.query trackingId credential (.ok output)] := by
    rw [Session.journal_of_exchange (GatewayCall.query trackingId credential) recorded]
    rfl
  have same := congrArg Prod.fst
    (pipeline.stapleSubmitted_refines binary trackingId session.recording)
  rw [Session.recording_through] at same
  rw [same, pipeline.recorded.stapleSubmitted_eq session.recording credentialed adopted recorded]
  obtain ⟨submitted, path⟩ : artifact.marker = .submitted trackingId ∧ artifact.path = binary := by
    obtain ⟨digest, -, rfl⟩ := Artifact.startingAt_eq_ok_iff.1 adopted
    exact ⟨rfl, rfl⟩
  match told : statusIn (.ok output) with
  | none =>
    dsimp only
    rw [asked]
    exact .silent told
  | some .success =>
    dsimp only
    rw [stapleBy_success submitted]
    have refusals := pipeline.recorded.staple_ne_rejected (artifact.decided .success) queried
    have stapling := staple_ends pipeline.recorded (artifact.decided .success) queried
    generalize pipeline.recorded.staple (artifact.decided .success) queried = left
      at refusals stapling ⊢
    cases stapling with
    | cancelled fired => exact absurd (live.symm.trans fired) (by simp)
    | unaccepted _ unaccepted => exact absurd rfl unaccepted
    | missing _ _ missing =>
      rw [show (artifact.decided .success).path = binary from path] at missing
      exact absurd (present.symm.trans missing) (by simp)
    | called _ _ rewriting =>
      obtain ⟨answer, calls⟩ := rewriting.noted
      rw [calls, asked, show (artifact.decided .success).path = binary from path]
      refine .accepted told fun id token refused => refusals id token ?_
      rcases left with ⟨⟨failure | _, reached⟩, after⟩ <;> cases refused
      rfl
  | some (.invalid token) =>
    dsimp only
    rw [stapleBy_invalid submitted, asked]
    exact .refused told
  | some .inProgress =>
    dsimp only
    rw [stapleBy_of_pending rfl, asked]
    exact .pending told rfl
  | some (.other word) =>
    dsimp only
    rw [stapleBy_of_pending rfl, asked]
    exact .pending told rfl

/-! ## Waiting for the same reply -/

/-- The calls of a wait. -/
def awaitCalls (pipeline : Pipeline α) (submission : Submission) (artifact : Artifact)
    (session : Session (World α)) : List GatewayCall :=
  ((pipeline.recorded.await submission : Work _ TrustError _) artifact
    session.recording).2.journal.map Line.call

/-- Whether the last status that a wait hears, if it hears any, is the one in a reply.  So it is
when that is the only reply, when all replies are the same, and when the others cannot be read. -/
def HearsLast (pipeline : Pipeline α) (submission : Submission) (artifact : Artifact)
    (session : Session (World α)) (reply : QueryReply) : Prop :=
  ((pipeline.awaitCalls submission artifact session).filterMap GatewayCall.status?).getLast? =
    statusIn reply

/-- A wait that asks a single query hears nothing but its reply. -/
theorem hearsLast_of_single {reply : QueryReply}
    (single : pipeline.awaitCalls submission artifact session =
      [.query trackingId credential reply]) :
    pipeline.HearsLast submission artifact session reply := by
  rw [HearsLast, single]
  cases told : statusIn reply <;> simp [GatewayCall.status?, told]

/-- What a wait that is not cancelled comes to by the last reply that tells a status. -/
inductive Decides (submission : Submission) (artifact : Artifact) (origin : Session (World α))
    (reply : QueryReply) : Except TrustError Unit → Artifact → Session (World α) → Prop
  | accepted {after : Session (World α)} (told : statusIn reply = some .success) :
      Decides submission artifact origin reply (.ok ()) (artifact.decided .success) after
  | refused {after : Session (World α)} {token : String}
      (told : statusIn reply = some (.invalid token)) :
      Decides submission artifact origin reply (.error (.rejected submission.trackingId token))
        (artifact.decided (.rejected token)) after
  | pending {after : Session (World α)} (pending : verdictIn reply = none)
      (late : submission.deadline ≤ after.now) :
      Decides submission artifact origin reply
        (.error (.timeout submission.trackingId (submission.remaining origin.now)))
        (artifact.decided (.unknown
          ((((statusIn reply).or submission.lastStatus).map Status.text).getD "none"))) after

/-- The last status of replies none of which is final is not final. -/
theorem verdictIn_of_last {reply : QueryReply}
    (pending : ∀ reply ∈ replies, verdictIn reply = none)
    (last : (replies.filterMap statusIn).getLast? = statusIn reply) : verdictIn reply = none := by
  rw [verdictIn, ← last]
  cases told : (replies.filterMap statusIn).getLast? with
  | none => rfl
  | some status =>
    obtain ⟨heard, member, status⟩ := List.mem_filterMap.1 (List.mem_of_getLast? told)
    simpa [verdictIn, status] using pending heard member

theorem Replied.decides {reply : QueryReply}
    (replied : Replied pipeline submission credential artifact origin replies result reached after)
    (last : (replies.filterMap statusIn).getLast? = statusIn reply)
    (unfired : after.isCancelled = false) :
    Decides submission artifact origin reply result reached after := by
  cases replied with
  | accepted _ _ _ told => exact .accepted (by simpa [told] using last.symm)
  | refused _ _ _ told => exact .refused (by simpa [told] using last.symm)
  | timedOut waits _ _ pending late =>
    rw [Submission.hearing_eq, last]
    refine .pending (verdictIn_of_last ?_ last) late
    simpa [or_imp, forall_and] using ⟨waits.pending, pending⟩
  | cancelled _ fired => simp [fired] at unfired
  | disturbed _ _ _ _ _ rested =>
    have fired := Session.isCancelled_restFor (congrArg Prod.fst rested)
    rw [rested] at fired
    exact absurd (unfired.symm.trans fired) (by simp)

/-! ## Both -/

/-- How a single query and a wait agree on a reply. -/
structure Agree (credential : Credential) (binary : Path) (submission : Submission)
    (output : ToolOutput) (waited : Nat) (single : Except TrustError Artifact)
    (calls : List GatewayCall) (result : Except TrustError Unit) (reached : Artifact)
    (after : Session (World α)) : Prop where
  /-- The ticket is asked for exactly where a wait records acceptance. -/
  goesOn_iff : (∃ answer, GatewayCall.staple binary answer ∈ calls) ↔
    reached.marker = .verdict .success
  refused_iff : ∀ trackingId token, single = .error (.rejected trackingId token) ↔
    result = .error (.rejected trackingId token)
  /-- A status that is not final is told in the words that a wait records. -/
  pending : ∀ status, statusIn (.ok output) = some status → status.isTerminal = false →
    single = .error (.notApproved submission.trackingId status.text) ∧
      reached.marker = .verdict (.unknown status.text) ∧
      calls = [.query submission.trackingId credential (.ok output)]
  /-- A reply without a status is a failure at once, and a wait goes on to its deadline. -/
  silent : statusIn (.ok output) = none →
    single = .error (.protocol .poll ("no status in response: " ++ output.combined)) ∧
      result = .error (.timeout submission.trackingId waited) ∧
      submission.deadline ≤ after.now ∧
      calls = [.query submission.trackingId credential (.ok output)]

theorem AsksOnce.agree {single : Except TrustError Artifact} {calls : List GatewayCall}
    (once : AsksOnce submission.trackingId credential binary output single calls)
    (decides : Decides submission artifact origin (.ok output) result reached after) :
    Agree credential binary submission output (submission.remaining origin.now) single calls
      result reached after := by
  cases once with
  | accepted told unrefused =>
    cases decides with
    | accepted =>
      constructor
      case goesOn_iff =>
        exact iff_of_true ⟨_, List.mem_cons_of_mem _ (List.mem_singleton_self _)⟩ rfl
      case refused_iff => exact fun id token => iff_of_false (unrefused id token) (by simp)
      case pending =>
        intro status same pending
        cases told.symm.trans same
        simp [Status.isTerminal] at pending
      case silent => exact fun silent => absurd (told.symm.trans silent) (by simp)
    | refused other => exact absurd (told.symm.trans other) (by simp)
    | pending pending => simp [verdictIn, told, verdictOf] at pending
  | refused told =>
    cases decides with
    | accepted other => exact absurd (told.symm.trans other) (by simp)
    | refused other =>
      cases told.symm.trans other
      constructor
      case goesOn_iff => exact iff_of_false (by simp) (by simp [Artifact.decided])
      case refused_iff => simp
      case pending =>
        intro status same pending
        cases told.symm.trans same
        simp [Status.isTerminal] at pending
      case silent => exact fun silent => absurd (told.symm.trans silent) (by simp)
    | pending pending => simp [verdictIn, told, verdictOf] at pending
  | @pending status told pending =>
    cases decides with
    | accepted other | refused other =>
      cases told.symm.trans other
      simp [Status.isTerminal] at pending
    | pending =>
      constructor
      case goesOn_iff => exact iff_of_false (by simp) (by simp [Artifact.decided])
      case refused_iff => simp
      case pending =>
        intro status same _
        cases told.symm.trans same
        exact ⟨rfl, by simp [Artifact.decided, told], rfl⟩
      case silent => exact fun silent => absurd (told.symm.trans silent) (by simp)
  | silent silent =>
    cases decides with
    | accepted other | refused other => exact absurd (silent.symm.trans other) (by simp)
    | pending _ late =>
      constructor
      case goesOn_iff => exact iff_of_false (by simp) (by simp [Artifact.decided])
      case refused_iff => simp
      case pending => exact fun _ told => absurd (silent.symm.trans told) (by simp)
      case silent => exact fun _ => ⟨rfl, rfl, late, rfl⟩

/-- A single query and a wait that hears the same reply last decide alike. -/
theorem stapleSubmitted_agrees (pipeline : Pipeline α) (credential : Credential)
    (submission : Submission) (binary : Path) (adopted waiting : Artifact) (output : ToolOutput)
    (session asked begun : Session (World α))
    (credentialed : pipeline.credential = .ok credential)
    (adopts : Artifact.adopt submission.trackingId session.world.files binary = .ok adopted)
    (answered : session.exchange (pipeline.notary.query submission.trackingId credential) =
      (.ok output, asked))
    (live : asked.isCancelled = false) (present : asked.world.files.isFile binary = true)
    (submitted : waiting.marker = .submitted submission.trackingId)
    (hears : pipeline.HearsLast submission waiting begun (.ok output))
    (unfired : ((pipeline.await submission : Work α TrustError _) waiting begun).2.isCancelled =
      false) :
    ∃ result watched reached after,
      (pipeline.await submission : Work α TrustError _) waiting begun =
        ((.ok (result, watched), reached), after) ∧
      Agree credential binary submission output (submission.remaining begun.now)
        (pipeline.stapleSubmitted binary submission.trackingId session).1
        ((pipeline.recorded.stapleSubmitted binary submission.trackingId
          session.recording).2.journal.map Line.call)
        result reached after := by
  obtain ⟨replies, result, reached, after, awaited, asks, replied⟩ :=
    await_replies (ε := TrustError) pipeline submission begun credentialed submitted
  have last : (replies.filterMap statusIn).getLast? = statusIn (.ok output) := by
    rw [← hears, awaitCalls, asks, List.filterMap_map]
    rfl
  rw [awaited] at unfired
  have once := stapleSubmitted_asksOnce pipeline credentialed adopts answered live present
  exact ⟨result, _, reached, after, awaited, once.agree (replied.decides last unfired)⟩

/-- The authority has no verdict yet: no ticket by a single query, none by a wait that asks it
only once. -/
theorem stapleSubmitted_agrees_overdue :
    let reply : ToolOutput := ⟨"status: in progress", ""⟩
    let asked := (unasked.exchange (hesitant.notary.query ⟨"id-1"⟩ (.profile "notary"))).2
    hesitant.credential = .ok (.profile "notary") ∧
      Artifact.adopt ⟨"id-1"⟩ unasked.world.files ⟨"/agent"⟩ =
        .ok ⟨⟨"/agent"⟩, Sha256.hexDigest .empty, [], .submitted ⟨"id-1"⟩⟩ ∧
      unasked.exchange (hesitant.notary.query ⟨"id-1"⟩ (.profile "notary")) = (.ok reply, asked) ∧
      asked.isCancelled = false ∧ asked.world.files.isFile ⟨"/agent"⟩ = true ∧
      submittedAgent.marker = .submitted ⟨"id-1"⟩ ∧
      hesitant.HearsLast overdue submittedAgent unasked (.ok reply) ∧
      (overdueWait submittedAgent unasked).2.isCancelled = false ∧
      (hesitant.stapleSubmitted ⟨"/agent"⟩ ⟨"id-1"⟩ unasked).1 =
        .error (.notApproved ⟨"id-1"⟩ "in progress") ∧
      (overdueWait submittedAgent unasked).1.2.marker = .verdict (.unknown "in progress") := by
  intro reply asked
  have adopts : Artifact.adopt ⟨"id-1"⟩ unasked.world.files ⟨"/agent"⟩ =
      .ok ⟨⟨"/agent"⟩, Sha256.hexDigest .empty, [], .submitted ⟨"id-1"⟩⟩ :=
    Artifact.startingAt_eq_ok_iff.2
      ⟨_, Artifact.contentHash_eq_ok_iff.2 ⟨.empty, by decide +kernel, rfl⟩, rfl⟩
  have answered : unasked.exchange (hesitant.notary.query ⟨"id-1"⟩ (.profile "notary")) =
      (.ok reply, asked) := rfl
  have live : asked.isCancelled = false := by decide +kernel
  have present : asked.world.files.isFile ⟨"/agent"⟩ = true := by decide +kernel
  have single : hesitant.awaitCalls overdue submittedAgent unasked =
      [.query ⟨"id-1"⟩ (.profile "notary") (.ok reply)] := by decide +kernel
  have hears := hearsLast_of_single single
  have unfired : (overdueWait submittedAgent unasked).2.isCancelled = false := by decide +kernel
  obtain ⟨result, watched, reached, after, awaited, agree⟩ :=
    stapleSubmitted_agrees hesitant (.profile "notary") overdue ⟨"/agent"⟩ _ submittedAgent reply
      unasked asked unasked rfl adopts answered live present rfl hears unfired
  obtain ⟨refused, unknown, -⟩ := agree.pending .inProgress (by decide +kernel) rfl
  refine ⟨rfl, adopts, answered, live, present, rfl, hears, unfired, refused, ?_⟩
  rw [overdueWait, awaited]
  exact unknown

end Pipeline

end Steward
