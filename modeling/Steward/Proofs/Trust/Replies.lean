import Steward.Proofs.Trust.Journal
import Steward.Proofs.Trust.WaitingAgain

/-!
# What a wait hears

A wait for the verdict asks for the one submission it was given, again and
again, and notes on it whatever status it hears.  Only acceptance and refusal
end it by what they say; otherwise it ends when the deadline has passed or the
token has fired.  `StillWaits` and `Replied` say so over the replies that were
heard, whatever they were.
-/

namespace Steward

variable {α ε : Type}

/-- What comes back from a query. -/
abbrev QueryReply := Except ToolError ToolOutput

/-- The verdict in a reply, if it tells one. -/
def verdictIn (reply : QueryReply) : Option Verdict :=
  (statusIn reply).bind Pipeline.verdictOf

theorem verdictIn_eq_success_iff {reply : QueryReply} :
    verdictIn reply = some .success ↔ statusIn reply = some .success := by
  rw [verdictIn]
  cases statusIn reply with
  | none => simp
  | some status => cases status <;> simp [Pipeline.verdictOf]

theorem verdictIn_eq_rejected_iff {reply : QueryReply} {token : String} :
    verdictIn reply = some (.rejected token) ↔ statusIn reply = some (.invalid token) := by
  rw [verdictIn]
  cases statusIn reply with
  | none => simp
  | some status => cases status <;> simp [Pipeline.verdictOf]

theorem verdictIn_ne_unknown {reply : QueryReply} {status : String} :
    verdictIn reply ≠ some (.unknown status) := by
  rw [verdictIn]
  cases statusIn reply with
  | none => simp
  | some status => cases status <;> simp [Pipeline.verdictOf]

/-- A refusal is told in the word that the reply holds, without the blanks around it. -/
theorem word_of_invalid {reply : QueryReply} {token : String}
    (refused : statusIn reply = some (.invalid token)) :
    ∃ output word, reply = .ok output ∧ Response.statusToken? output.combined = some word ∧
      token = Text.trim word := by
  cases reply with
  | error => simp [statusIn] at refused
  | ok output =>
    simp only [statusIn, Option.map_eq_some_iff] at refused
    obtain ⟨word, told, read⟩ := refused
    refine ⟨output, word, rfl, told, ?_⟩
    simp only [Status.read] at read
    split_ifs at read
    exact (Status.invalid.inj read).symm

/-! ## Submissions that have heard replies -/

namespace Submission

/-- The submission after some replies, oldest first. -/
def hearing (submission : Submission) (replies : List QueryReply) : Submission :=
  replies.foldl noteIn submission

@[simp]
theorem hearing_concat (submission : Submission) (replies : List QueryReply)
    (reply : QueryReply) :
    submission.hearing (replies ++ [reply]) = (submission.hearing replies).noteIn reply := by
  rw [hearing, List.foldl_append]
  rfl

/-- What replies change: the number of polls and the last status. -/
theorem hearing_eq (submission : Submission) (replies : List QueryReply) :
    submission.hearing replies = { submission with
      polls := submission.polls + UInt32.ofNat (replies.filterMap statusIn).length
      lastStatus := (replies.filterMap statusIn).getLast?.or submission.lastStatus } := by
  induction replies using List.reverseRecOn with
  | nil => simp [hearing]
  | append_singleton replies reply inductionHypothesis =>
    rw [hearing_concat, inductionHypothesis, noteIn, List.filterMap_append]
    cases told : statusIn reply with
    | none => simp [told]
    | some status => simp [told, note, UInt32.ofNat_add, UInt32.add_assoc]

/-- The polls are counted exactly as long as a word of 32 bits can hold their number. -/
theorem polls_hearing_toNat (submission : Submission) (replies : List QueryReply)
    (room : submission.polls.toNat + (replies.filterMap statusIn).length < UInt32.size) :
    (submission.hearing replies).polls.toNat =
      submission.polls.toNat + (replies.filterMap statusIn).length := by
  rw [hearing_eq]
  dsimp only
  have held : (UInt32.ofNat (replies.filterMap statusIn).length).toNat =
      (replies.filterMap statusIn).length :=
    UInt32.toNat_ofNat_of_lt' (Nat.lt_of_le_of_lt (Nat.le_add_left _ _) room)
  rw [UInt32.toNat_add, held]
  exact Nat.mod_eq_of_lt room

end Submission

namespace Pipeline

/-! ## Waits -/

section Waits

variable (pipeline : Pipeline α) (submission : Submission) (credential : Credential)
  (artifact : Artifact) (origin : Session (World α))

/-- How long a wait rests after a reply that is not final. -/
def restAfterReply (session : Session (World α)) : Nat :=
  max 1 (min pipeline.settings.timings.pollInterval (submission.remaining session.now))

/-- The sessions in which a wait that began in `origin` is about to ask, with the replies it has
heard by then, oldest first. -/
inductive StillWaits : List QueryReply → Session (World α) → Prop
  | begun : StillWaits [] origin
  | again {replies : List QueryReply} {reply : QueryReply}
      {asking answered next : Session (World α)}
      (earlier : StillWaits replies asking) (live : asking.isCancelled = false)
      (asked : asking.exchange (pipeline.notary.query submission.trackingId credential) =
        (reply, answered))
      (pending : verdictIn reply = none) (early : answered.now < submission.deadline)
      (rested : answered.restFor (pipeline.restAfterReply submission answered) = (true, next)) :
      StillWaits (replies ++ [reply]) next

/-- The replies of a wait that began in `origin`, what it comes to, the artifact it leaves and the
session after it. -/
inductive Replied :
    List QueryReply → Except TrustError Unit → Artifact → Session (World α) → Prop
  | accepted {replies : List QueryReply} {reply : QueryReply}
      {asking answered : Session (World α)}
      (waits : StillWaits pipeline submission credential origin replies asking)
      (live : asking.isCancelled = false)
      (asked : asking.exchange (pipeline.notary.query submission.trackingId credential) =
        (reply, answered))
      (told : statusIn reply = some .success) :
      Replied (replies ++ [reply]) (.ok ()) (artifact.decided .success) answered
  | refused {replies : List QueryReply} {reply : QueryReply} {token : String}
      {asking answered : Session (World α)}
      (waits : StillWaits pipeline submission credential origin replies asking)
      (live : asking.isCancelled = false)
      (asked : asking.exchange (pipeline.notary.query submission.trackingId credential) =
        (reply, answered))
      (told : statusIn reply = some (.invalid token)) :
      Replied (replies ++ [reply]) (.error (.rejected submission.trackingId token))
        (artifact.decided (.rejected token)) answered
  | timedOut {replies : List QueryReply} {reply : QueryReply}
      {asking answered : Session (World α)}
      (waits : StillWaits pipeline submission credential origin replies asking)
      (live : asking.isCancelled = false)
      (asked : asking.exchange (pipeline.notary.query submission.trackingId credential) =
        (reply, answered))
      (pending : verdictIn reply = none) (late : submission.deadline ≤ answered.now) :
      Replied (replies ++ [reply])
        (.error (.timeout submission.trackingId (submission.remaining origin.now)))
        (artifact.decided (.unknown
          (((submission.hearing (replies ++ [reply])).lastStatus.map Status.text).getD "none")))
        answered
  | cancelled {replies : List QueryReply} {asking : Session (World α)}
      (waits : StillWaits pipeline submission credential origin replies asking)
      (fired : asking.isCancelled = true) :
      Replied replies (.error (.cancelled .poll)) artifact asking
  | disturbed {replies : List QueryReply} {reply : QueryReply}
      {asking answered next : Session (World α)}
      (waits : StillWaits pipeline submission credential origin replies asking)
      (live : asking.isCancelled = false)
      (asked : asking.exchange (pipeline.notary.query submission.trackingId credential) =
        (reply, answered))
      (pending : verdictIn reply = none) (early : answered.now < submission.deadline)
      (rested : answered.restFor (pipeline.restAfterReply submission answered) = (false, next)) :
      Replied (replies ++ [reply]) (.error (.cancelled .poll)) artifact next

end Waits

variable {pipeline : Pipeline α} {submission : Submission} {credential : Credential}
  {artifact reached : Artifact} {origin session after : Session (World α)}
  {replies : List QueryReply} {result : Except TrustError Unit}

/-- Whatever a wait has heard before it asks again was not final. -/
theorem StillWaits.pending
    (waits : StillWaits pipeline submission credential origin replies session) :
    ∀ reply ∈ replies, verdictIn reply = none := by
  induction waits with
  | begun => simp
  | again _ _ _ pending _ _ inductionHypothesis =>
      simpa [or_imp, forall_and] using ⟨inductionHypothesis, pending⟩

theorem StillWaits.no_verdict
    (waits : StillWaits pipeline submission credential origin replies session)
    (verdict : Verdict) : ¬∃ reply ∈ replies, verdictIn reply = some verdict := by
  rintro ⟨reply, heard, told⟩
  simp [waits.pending reply heard] at told

/-- A wait is about to ask only where the token had not fired before. -/
theorem StillWaits.live_origin
    (waits : StillWaits pipeline submission credential origin replies session)
    (live : session.isCancelled = false) : origin.isCancelled = false := by
  induction waits with
  | begun => exact live
  | again _ alive _ _ _ _ inductionHypothesis => exact inductionHypothesis alive

/-- A wait has heard something unless it has only begun. -/
theorem StillWaits.begun_or
    (waits : StillWaits pipeline submission credential origin replies session) :
    (replies = [] ∧ session = origin) ∨ (replies ≠ [] ∧ origin.isCancelled = false) := by
  cases waits with
  | begun => exact .inl ⟨rfl, rfl⟩
  | again earlier live => exact .inr ⟨by simp, earlier.live_origin live⟩

namespace Replied

/-- Only the last reply can be final. -/
theorem pending (replied : Replied pipeline submission credential artifact origin replies result
      reached after) :
    ∀ reply ∈ replies.dropLast, verdictIn reply = none := by
  cases replied with
  | cancelled waits => exact fun reply heard => waits.pending reply (List.dropLast_subset _ heard)
  | accepted waits | refused waits | timedOut waits | disturbed waits =>
      rw [List.dropLast_concat]
      exact waits.pending

/-- A wait asks at least once, unless the token had fired before. -/
theorem ne_nil_iff (replied : Replied pipeline submission credential artifact origin replies
      result reached after) :
    replies ≠ [] ↔ origin.isCancelled = false := by
  cases replied with
  | cancelled waits fired =>
    rcases waits.begun_or with ⟨rfl, rfl⟩ | ⟨some, live⟩
    · simp [fired]
    · exact iff_of_true some live
  | accepted waits live | refused waits live | timedOut waits live | disturbed waits live =>
    exact iff_of_true (by simp) (waits.live_origin live)

/-- The verdict in a reply, and only that, ends a wait with it. -/
theorem accepted_iff (replied : Replied pipeline submission credential artifact origin replies
      result reached after) :
    result = .ok () ↔ ∃ reply ∈ replies, verdictIn reply = some .success := by
  cases replied with
  | accepted waits _ _ told =>
    exact iff_of_true rfl ⟨_, List.mem_concat_self, verdictIn_eq_success_iff.2 told⟩
  | refused waits _ _ told =>
    have refusal := verdictIn_eq_rejected_iff.2 told
    simp [or_and_right, exists_or, refusal, waits.no_verdict]
  | cancelled waits => simp [waits.no_verdict]
  | timedOut waits _ _ pending | disturbed waits _ _ pending =>
    simp [or_and_right, exists_or, pending, waits.no_verdict]

theorem refused_iff (replied : Replied pipeline submission credential artifact origin replies
      result reached after) (token : String) :
    result = .error (.rejected submission.trackingId token) ↔
      ∃ reply ∈ replies, verdictIn reply = some (.rejected token) := by
  cases replied with
  | accepted waits _ _ told =>
    have acceptance := verdictIn_eq_success_iff.2 told
    simp [or_and_right, exists_or, acceptance, waits.no_verdict]
  | refused waits _ _ told =>
    have refusal := verdictIn_eq_rejected_iff.2 told
    simp [or_and_right, exists_or, refusal, waits.no_verdict]
  | cancelled waits => simp [waits.no_verdict]
  | timedOut waits _ _ pending | disturbed waits _ _ pending =>
    simp [or_and_right, exists_or, pending, waits.no_verdict]

/-- A wait is cancelled only by the token, and leaves the artifact as it was. -/
theorem of_cancelled (replied : Replied pipeline submission credential artifact origin replies
      (.error (.cancelled .poll)) reached after) :
    reached = artifact ∧ after.isCancelled = true := by
  generalize cancelled : Except.error (TrustError.cancelled .poll) = result at replied
  cases replied with
  | accepted | refused | timedOut => simp at cancelled
  | cancelled _ fired => exact ⟨rfl, fired⟩
  | disturbed _ _ _ _ _ rested =>
    have fired := Session.isCancelled_restFor (congrArg Prod.fst rested)
    rw [rested] at fired
    exact ⟨rfl, fired⟩

end Replied

/-! ## Recorded waits -/

section Recorded

variable {ω : Type} {last : Session (World (α × Journal GatewayCall) × Submission)}

/-- A recorded session with a submission beside it, as the plain pipeline sees it. -/
def plain (session : Session (World (α × Journal GatewayCall) × Submission)) :
    Session (World α) :=
  session.through fun world => world.1.unrecorded

/-- What is noted of some replies: the queries in the journal and the statuses on the
submission. -/
structure Heard (submission : Submission) (credential : Credential) (replies : List QueryReply)
    (last : Session (World (α × Journal GatewayCall) × Submission)) : Prop where
  noted : last.world.2 = submission.hearing replies
  asked : last.unloaded.journal.map Line.call =
    replies.map (GatewayCall.query submission.trackingId credential)

/-- A probe of a recorded wait asks one query, and its reply is heard. -/
theorem probed_hears (pipeline : Pipeline α) (heard : Heard submission credential replies last)
    (attempts : UInt32) :
    ∃ reply,
      (last.exchange (pipeline.recorded.probe (ε := TrustError) submission.trackingId credential
        (attempts + 1))).1 = .ok (verdictIn reply) ∧
      (plain last).exchange (pipeline.notary.query submission.trackingId credential) =
        (reply, plain (Session.probed (pipeline.recorded.probe (ε := TrustError)
          submission.trackingId credential) attempts last)) ∧
      Heard submission credential (replies ++ [reply])
        (Session.probed (pipeline.recorded.probe (ε := TrustError) submission.trackingId
          credential) attempts last) ∧
      last.now ≤ (Session.probed (pipeline.recorded.probe (ε := TrustError)
        submission.trackingId credential) attempts last).now := by
  refine ⟨(last.unloaded.exchange
    (pipeline.recorded.notary.query submission.trackingId credential)).1, ?_, ?_, ⟨?_, ?_⟩,
    Session.now_le_probed attempts last⟩ <;> simp only [Session.probed, exchange_probe]
  · rfl
  · exact Session.exchange_through (Exchange.recorded_refines _ _) last.unloaded
  · rw [Submission.hearing_concat, ← heard.noted]
    rfl
  · rw [List.map_append, ← heard.asked]
    exact congrArg (List.map Line.call) (Session.journal_exchange _ _ last.unloaded) |>.trans
      List.map_append

theorem Heard.restFor (heard : Heard submission credential replies last) (span : Nat) :
    Heard submission credential replies (last.restFor span).2 := by
  constructor
  · rw [Session.world_restFor]
    exact heard.noted
  · rw [Session.journal, Session.unloaded]
    dsimp only
    rw [Session.world_restFor]
    exact heard.asked

theorem plain_restFor (session : Session (World (α × Journal GatewayCall) × Submission))
    (span : Nat) :
    (plain session).restFor span = ((session.restFor span).1, plain (session.restFor span).2) :=
  Session.restFor_through session span

/-- A wait rests until it asks again or the deadline has come. -/
theorem rested_plain (pipeline : Pipeline α) {undisturbed : Bool}
    (forward : origin.now ≤ last.now)
    (rested : (last.restFor (Session.restAfter (pipeline.verdictSchedule submission origin)
      origin.now last)).1 = undisturbed) :
    (plain last).restFor (pipeline.restAfterReply submission (plain last)) =
      (undisturbed, plain (last.restFor (Session.restAfter
        (pipeline.verdictSchedule submission origin) origin.now last)).2) := by
  have span : pipeline.restAfterReply submission (plain last) =
      Session.restAfter (pipeline.verdictSchedule submission origin) origin.now last := by
    simp only [restAfterReply, Session.restAfter, Session.spanAfter, verdictSchedule,
      Submission.remaining]
    rw [show (plain last).now = last.now from rfl]
    congr 2
    omega
  rw [span, plain_restFor, rested]

/-- Time is left exactly before the deadline. -/
theorem sub_lt_remaining_iff {now : Nat} (forward : origin.now ≤ now) :
    now - origin.now < submission.remaining origin.now ↔ now < submission.deadline := by
  rw [Submission.remaining]
  omega

/-- Where a wait has come to by its polls, it still waits, and all it has heard is noted. -/
theorem stillWaits_of_polled {attempts : UInt32}
    (polled : Session.Polled Session.noOverrun (pipeline.verdictSchedule submission origin)
      (pipeline.recorded.probe (ε := TrustError) submission.trackingId credential) origin.now 0
      (origin.recording.carrying submission) attempts last) :
    ∃ replies, Heard submission credential replies last ∧
      StillWaits pipeline submission credential origin replies (plain last) := by
  induction polled with
  | start => exact ⟨[], ⟨rfl, rfl⟩, .begun⟩
  | @again attempts last earlier live pending early _ undisturbed inductionHypothesis =>
    obtain ⟨replies, heard, waits⟩ := inductionHypothesis
    obtain ⟨reply, told, asked, hears, later⟩ := probed_hears pipeline heard attempts
    have forward := earlier.now_le.trans later
    refine ⟨replies ++ [reply], hears.restFor _, .again waits live asked ?_ ?_ ?_⟩
    · exact Except.ok.inj (told.symm.trans pending)
    · exact (sub_lt_remaining_iff forward).1 early
    · exact rested_plain pipeline forward undisturbed

/-- What a wait of an artifact at its submission comes to by the outcome of its poll. -/
def settlement (submission : Submission) (waited : Nat) (artifact : Artifact) :
    Outcome Verdict → Except TrustError Unit × Artifact
  | .ready .success => (.ok (), artifact.decided .success)
  | .ready (.rejected token) | .ready (.unknown token) =>
    (.error (.rejected submission.trackingId token), artifact.decided (.rejected token))
  | .timedOut .. =>
    (.error (.timeout submission.trackingId waited),
      artifact.decided (.unknown ((submission.lastStatus.map Status.text).getD "none")))
  | .cancelled _ => (.error (.cancelled .poll), artifact)

theorem conclude_of_submitted {trackingId : TrackingId} {waited : Nat}
    {outcome : Outcome Verdict} (submitted : artifact.marker = .submitted trackingId)
    (known : ∀ status, outcome ≠ .ready (.unknown status)) :
    conclude submission waited outcome artifact session =
      (settlement submission waited artifact outcome, session) := by
  match outcome with
  | .ready .success =>
      simp only [conclude, Work.update_apply, Artifact.advance_eq_decided submitted]
      rfl
  | .ready (.rejected token) =>
      simp only [conclude, Work.bind_apply, Work.update_apply,
        Artifact.advance_eq_decided submitted]
      rfl
  | .ready (.unknown status) => exact absurd rfl (known status)
  | .timedOut attempts elapsed =>
      simp only [conclude, Work.bind_apply, Work.update_apply,
        Artifact.advance_eq_decided submitted]
      rfl
  | .cancelled attempts => rfl

/-- The end of a poll, in what was heard. -/
theorem replied_of_pollEnd (pipeline : Pipeline α) (origin : Session (World α))
    (artifact : Artifact) {attempts : UInt32} {outcome : Outcome Verdict}
    {final : Session (World (α × Journal GatewayCall) × Submission)}
    (polled : Session.Polled Session.noOverrun (pipeline.verdictSchedule submission origin)
      (pipeline.recorded.probe (ε := TrustError) submission.trackingId credential) origin.now 0
      (origin.recording.carrying submission) attempts last)
    (ended : Session.PollEnd Session.noOverrun (pipeline.verdictSchedule submission origin)
      (pipeline.recorded.probe (ε := TrustError) submission.trackingId credential) origin.now
      attempts last (.ok outcome, final)) :
    (∀ status, outcome ≠ .ready (.unknown status)) ∧
      ∃ replies, Heard submission credential replies final ∧
        Replied pipeline submission credential artifact origin replies
          (settlement final.world.2 (submission.remaining origin.now) artifact outcome).1
          (settlement final.world.2 (submission.remaining origin.now) artifact outcome).2
          (plain final) := by
  obtain ⟨replies, heard, waits⟩ := stillWaits_of_polled polled
  obtain ⟨reply, told, asked, hears, later⟩ := probed_hears pipeline heard attempts
  have forward := polled.now_le.trans later
  cases ended with
  | cancelled fired => exact ⟨nofun, replies, heard, .cancelled waits fired⟩
  | @ready verdict live answer =>
    have said : verdictIn reply = some verdict := Except.ok.inj (told.symm.trans answer)
    have named := congrArg Submission.trackingId hears.noted
    rw [Submission.hearing_eq] at named
    match verdict with
    | .success =>
      exact ⟨nofun, _, hears, .accepted waits live asked (verdictIn_eq_success_iff.1 said)⟩
    | .rejected token =>
      refine ⟨nofun, _, hears, ?_⟩
      simp only [settlement, named]
      exact .refused waits live asked (verdictIn_eq_rejected_iff.1 said)
    | .unknown status => exact absurd said verdictIn_ne_unknown
  | timedOut live pending late =>
    have silent : verdictIn reply = none := Except.ok.inj (told.symm.trans pending)
    have named := congrArg Submission.trackingId hears.noted
    rw [Submission.hearing_eq] at named
    refine ⟨nofun, _, hears, ?_⟩
    simp only [settlement, named]
    rw [hears.noted]
    exact .timedOut waits live asked silent
      (Nat.le_of_not_lt fun early => absurd ((sub_lt_remaining_iff forward).2 early) late.not_gt)
  | disturbed live pending early _ disturbed =>
    have silent : verdictIn reply = none := Except.ok.inj (told.symm.trans pending)
    exact ⟨nofun, _, hears.restFor _, .disturbed waits live asked silent
      ((sub_lt_remaining_iff forward).1 early) (rested_plain pipeline forward disturbed)⟩

end Recorded

/-! ## Whole waits -/

/-- A wait of an artifact at its submission asks for the submission it was given and nothing
else, and comes to what the replies say. -/
theorem await_replies {trackingId : TrackingId} (pipeline : Pipeline α) (submission : Submission)
    (session : Session (World α)) (credentialed : pipeline.credential = .ok credential)
    (submitted : artifact.marker = .submitted trackingId) :
    ∃ replies result reached after,
      (pipeline.await submission : Work α ε _) artifact session =
        ((.ok (result, submission.hearing replies), reached), after) ∧
      ((pipeline.recorded.await submission : Work _ ε _) artifact
          session.recording).2.journal.map Line.call =
        replies.map (GatewayCall.query submission.trackingId credential) ∧
      Replied pipeline submission credential artifact session replies result reached after := by
  obtain ⟨_, _, _, _, -, awaiting⟩ :=
    await_ends (ε := ε) pipeline.recorded submission artifact session.recording
  cases awaiting with
  | uncredentialed uncredentialed =>
    exact absurd (uncredentialed.symm.trans credentialed) (by simp)
  | concluded paid polled ended _ =>
    cases Except.ok.inj (paid.symm.trans credentialed)
    obtain ⟨known, replies, heard, replied⟩ :=
      replied_of_pollEnd pipeline session artifact polled ended
    have recorded := await_of_pollEnd (ε := ε) pipeline.recorded artifact credentialed polled ended
    rw [conclude_of_submitted submitted known] at recorded
    refine ⟨replies, _, _, _, ?_, ?_, replied⟩
    · have refined := pipeline.await_refines (ε := ε) submission artifact session.recording
      rw [recorded] at refined
      rw [← heard.noted]
      exact refined
    · rw [recorded]
      exact heard.asked

/-- What a wait makes of the replies it hears. -/
structure Follows (pipeline : Pipeline α) (submission : Submission) (credential : Credential)
    (artifact : Artifact) (session : Session (World α)) (replies : List QueryReply)
    (result : Except TrustError Unit) (watched : Submission) (reached : Artifact)
    (after : Session (World α)) : Prop where
  replied : Replied pipeline submission credential artifact session replies result reached after
  /-- No reply before the last is final. -/
  pending : ∀ reply ∈ replies.dropLast, verdictIn reply = none
  /-- There is a reply, unless the token had fired before. -/
  asked_iff : replies ≠ [] ↔ session.isCancelled = false
  accepted_iff : result = .ok () ↔ ∃ reply ∈ replies, verdictIn reply = some .success
  refused_iff : ∀ token, result = .error (.rejected submission.trackingId token) ↔
    ∃ reply ∈ replies, verdictIn reply = some (.rejected token)
  /-- A refusal is in the word of the authority. -/
  word : ∀ reply ∈ replies, ∀ token, verdictIn reply = some (.rejected token) →
    ∃ output word, reply = .ok output ∧ Response.statusToken? output.combined = some word ∧
      token = Text.trim word
  cancelled : result = .error (.cancelled .poll) → reached = artifact ∧ after.isCancelled = true
  polls : watched.polls = submission.polls + UInt32.ofNat (replies.filterMap statusIn).length
  /-- No status is lost from the count while a word can hold it. -/
  polls_toNat : submission.polls.toNat + (replies.filterMap statusIn).length < UInt32.size →
    watched.polls.toNat = submission.polls.toNat + (replies.filterMap statusIn).length
  lastStatus :
    watched.lastStatus = (replies.filterMap statusIn).getLast?.or submission.lastStatus

/-- A wait asks for its own submission until the first final reply, the deadline or the token,
and counts the statuses it hears. -/
theorem await_follows (pipeline : Pipeline α) (submission : Submission) (artifact : Artifact)
    (session : Session (World α)) (credential : Credential) (trackingId : TrackingId)
    (credentialed : pipeline.credential = .ok credential)
    (submitted : artifact.marker = .submitted trackingId) :
    ∃ replies result watched reached after,
      (pipeline.await submission : Work α ε _) artifact session =
        ((.ok (result, watched), reached), after) ∧
      ((pipeline.recorded.await submission : Work _ ε _) artifact
          session.recording).2.journal.map Line.call =
        replies.map (GatewayCall.query submission.trackingId credential) ∧
      Follows pipeline submission credential artifact session replies result watched reached
        after := by
  obtain ⟨replies, result, reached, after, awaited, asked, replied⟩ :=
    await_replies (ε := ε) pipeline submission session credentialed submitted
  refine ⟨replies, result, _, reached, after, awaited, asked, ?_⟩
  constructor
  case replied => exact replied
  case pending => exact replied.pending
  case asked_iff => exact replied.ne_nil_iff
  case accepted_iff => exact replied.accepted_iff
  case refused_iff => exact replied.refused_iff
  case word => exact fun _ _ _ told => word_of_invalid (verdictIn_eq_rejected_iff.1 told)
  case cancelled =>
    rintro rfl
    exact replied.of_cancelled
  case polls => rw [Submission.hearing_eq]
  case polls_toNat => exact Submission.polls_hearing_toNat submission replies
  case lastStatus => rw [Submission.hearing_eq]

/-- A submission with a minute left for its verdict. -/
def unhurried : Submission := .make ⟨"id-1"⟩ (Nanos.ofSeconds 60) 0

/-- What a wait for the unhurried submission comes to, with the session after it. -/
def unhurriedWait :
    (Except TrustError (Except TrustError Unit × Submission) × Artifact) ×
      Session (World Bool) :=
  hesitant.await unhurried submittedAgent unasked

/-- The unhurried submission after two queries. -/
def heardTwice : Submission := (unhurried.note .inProgress).note .success

theorem await_follows_hesitant :
    hesitant.credential = .ok (.profile "notary") ∧
      submittedAgent.marker = .submitted unhurried.trackingId ∧
      heardTwice.polls = 2 ∧
      ∃ replies after,
        unhurriedWait = ((.ok (.ok (), heardTwice), submittedAgent.decided .success), after) ∧
          Follows hesitant unhurried (.profile "notary") submittedAgent unasked replies (.ok ())
            heardTwice (submittedAgent.decided .success) after := by
  have outcome : unhurriedWait.1 =
      (.ok (.ok (), heardTwice), submittedAgent.decided .success) := by
    decide +kernel
  obtain ⟨replies, result, watched, reached, after, awaited, -, follows⟩ :=
    await_follows (ε := TrustError) hesitant unhurried submittedAgent unasked (.profile "notary")
      unhurried.trackingId rfl rfl
  rw [unhurriedWait, awaited] at outcome
  cases outcome
  exact ⟨rfl, rfl, rfl, replies, after, awaited, follows⟩

end Pipeline

end Steward
