import Steward.Command.Trust
import Steward.Proofs.Trust.SingleQuery
import Steward.Proofs.Trust.Statuses

/-!
# Statuses that are recorded

Errors, verdicts and what the program prints hold the text of a status and not the status.  Only
what was read from a reply is ever recorded, so the text is read as that same status again.
-/

namespace Steward

variable {α β γ ε : Type}

/-- The text of a status in an error. -/
def TrustError.statusText? : TrustError → Option String
  | rejected _ status | notApproved _ status => some status
  | _ => none

theorem TrustError.IsOwn.statusText?_eq {failure : TrustError} (own : failure.IsOwn) :
    failure.statusText? = none := by
  cases failure with
  | configuration | notFound | io | stageOrder => rfl
  | _ => exact own.elim

/-- The text of a status in a marker. -/
def Marker.statusText? : Marker → Option String
  | verdict (.rejected status) | verdict (.unknown status) => some status
  | _ => none

namespace Status

/-- A status that was read is what is read of its text. -/
def ReadsBack (status : Status) : Prop := read status.text = status

/-- A text stands for the last status, if there has been one. -/
def Recalls (last : Option Status) (text : String) : Prop :=
  match last with
  | some status => read text = status
  | none => text = "none"

theorem readsBack_of_statusIn {reply : QueryReply} {status : Status}
    (told : statusIn reply = some status) : status.ReadsBack := by
  cases reply with
  | error => simp [statusIn] at told
  | ok output =>
    simp only [statusIn, Option.map_eq_some_iff] at told
    obtain ⟨word, -, rfl⟩ := told
    exact read_text_read word

theorem recalls_text {last : Option Status} (readable : ∀ status ∈ last, status.ReadsBack) :
    Recalls last ((last.map text).getD "none") := by
  cases last with
  | none => rfl
  | some status => exact readable status rfl

end Status

/-- What is recorded where `last` is the last status that was told: an error holds the text of that
status if it holds any, and so does a marker that was not there before, unless there has been no
status. -/
structure Records (last : Option Status) (result : Except TrustError β)
    (before after : List Marker) : Prop where
  error : ∀ failure text, result = .error failure → failure.statusText? = some text →
    ∃ status, last = some status ∧ Status.read text = status
  markers : ∀ marker ∈ after, ∀ text, marker.statusText? = some text →
    marker ∈ before ∨ Status.Recalls last text

namespace Records

variable {last : Option Status} {result : Except TrustError β} {failure : TrustError}
  {history : List Marker}

/-- Nothing is recorded by a failure that holds no status. -/
theorem of_silent (silent : failure.statusText? = none) :
    Records last (.error failure : Except TrustError β) history history where
  error _ text same told := by
    cases same
    simp [silent] at told
  markers _ member _ _ := .inl member

/-- It is all the same what a result is when it is no failure. -/
theorem with_result {before after : List Marker} {other : Except TrustError γ}
    (records : Records last result before after)
    (same : ∀ failure, other = .error failure → result = .error failure) :
    Records last other before after where
  error failure text failed told := records.error failure text (same failure failed) told
  markers := records.markers

/-- A marker that is added is recorded beside what was there. -/
theorem of_advance {artifact reached : Artifact} {next : Marker}
    (advanced : artifact.advance next = .ok reached)
    (error : ∀ failure text, result = .error failure → failure.statusText? = some text →
      ∃ status, last = some status ∧ Status.read text = status)
    (marker : ∀ text, next.statusText? = some text → Status.Recalls last text) :
    Records last result artifact.history reached.history where
  error := error
  markers added member text told := by
    rw [Artifact.history_of_advance advanced] at member
    rcases List.mem_append.1 member with earlier | new
    · exact .inl earlier
    · rw [List.mem_singleton.1 new] at told
      exact .inr (marker text told)

end Records

namespace Submission

/-- The last status of a submission is read from its text again. -/
def Readable (submission : Submission) : Prop :=
  ∀ status ∈ submission.lastStatus, status.ReadsBack

theorem lastStatus_noteIn (submission : Submission) (reply : QueryReply) :
    (submission.noteIn reply).lastStatus = (statusIn reply).or submission.lastStatus := by
  unfold noteIn
  cases statusIn reply <;> rfl

theorem readable_make (trackingId : TrackingId) (timeout now : Nat) :
    (make trackingId timeout now).Readable := nofun

theorem Readable.noteIn {submission : Submission} (readable : submission.Readable)
    (reply : QueryReply) : (submission.noteIn reply).Readable := by
  intro status last
  rw [lastStatus_noteIn] at last
  cases told : statusIn reply with
  | none => exact readable status (by simpa [told] using last)
  | some word =>
    obtain rfl : word = status := by simpa [told] using last
    exact Status.readsBack_of_statusIn told

theorem Waited.readable {made watched : Submission} (waits : made.Waited watched)
    (readable : made.Readable) : watched.Readable :=
  waits.keeps readable fun _ reply holds => holds.noteIn reply

end Submission

namespace Pipeline

/-! ## Waits -/

/-- The value that ends a poll of the authority is the verdict in its last reply. -/
theorem told_of_ready {pipeline : Pipeline α} {schedule : Schedule} {trackingId : TrackingId}
    {credential : Credential} {started : Nat} {attempts : UInt32} {verdict : Verdict}
    {last final : Session (World α × Submission)}
    (ended : Session.PollEnd Session.noOverrun schedule
      (pipeline.probe (ε := ε) trackingId credential) started attempts last
      (.ok (.ready verdict), final)) :
    ∃ reply, verdictIn reply = some verdict ∧ final.world.2 = last.world.2.noteIn reply := by
  cases ended with
  | ready _ answer =>
    rw [exchange_probe] at answer
    refine ⟨_, Except.ok.inj answer, ?_⟩
    rw [Session.probed, exchange_probe]
    rfl

variable {pipeline : Pipeline α} {submission watched : Submission} {artifact reached : Artifact}
  {session after : Session (World α)} {result : Except TrustError Unit}

/-- What a wait records is the last status on its submission. -/
theorem Awaiting.records
    (awaiting : Awaiting pipeline submission artifact session result watched reached after)
    (readable : submission.Readable) :
    Records watched.lastStatus result artifact.history reached.history := by
  have watchedReadable : watched.Readable :=
    awaiting.keeps readable fun _ reply holds => holds.noteIn reply
  cases awaiting with
  | uncredentialed uncredentialed =>
    exact .of_silent (isOwn_of_credential uncredentialed).statusText?_eq
  | @concluded credential attempts outcome _ _ last final _ polled ended concluding =>
    cases concluding with
    | accepted advanced => exact .of_advance advanced nofun nofun
    | @rejected token _ advanced =>
      -- The refusal keeps the word of the last reply, whose status is the last on the submission.
      obtain ⟨reply, verdict, noted⟩ := told_of_ready ended
      have told : statusIn reply = some (.invalid token) := verdictIn_eq_rejected_iff.1 verdict
      have read := Status.readsBack_of_statusIn told
      simp only [Status.ReadsBack, Status.text] at read
      have lastStatus : final.world.2.lastStatus = some (.invalid token) := by
        rw [noted, Submission.lastStatus_noteIn, told]
        rfl
      rw [lastStatus]
      refine .of_advance advanced ?_ ?_
      · rintro _ _ ⟨⟩ ⟨⟩
        exact ⟨_, rfl, read⟩
      · rintro _ ⟨⟩
        exact read
    | unknown =>
      obtain ⟨reply, verdict, -⟩ := told_of_ready ended
      exact absurd verdict verdictIn_ne_unknown
    | timedOut advanced =>
      refine .of_advance advanced ?_ ?_
      · rintro _ _ ⟨⟩ ⟨⟩
      · rintro _ ⟨⟩
        exact Status.recalls_text watchedReadable
    | disordered disordered => exact .of_silent (isOwn_of_advance disordered).statusText?_eq
    | cancelled => exact .of_silent rfl

/-! ## Steps that record no status -/

/-- A step leaves an artifact and a result that hold no status but those of before. -/
structure Silent (artifact : Artifact) (left : Left α β) : Prop where
  error : ∀ failure, left.1.1 = .error failure → failure.statusText? = none
  markers : ∀ marker ∈ left.1.2.history, marker ∈ artifact.history ∨ marker.statusText? = none

theorem Silent.of_error {failure : TrustError} (silent : failure.statusText? = none) :
    Silent artifact (β := β) ((.error failure, artifact), session) where
  error other same := by
    cases same
    exact silent
  markers _ member := .inl member

theorem Silent.of_advance {next : Marker} (advanced : artifact.advance next = .ok reached)
    (quiet : next.statusText? = none) (result : Except TrustError β)
    (silent : ∀ failure, result = .error failure → failure.statusText? = none) :
    Silent artifact ((result, reached), session) where
  error := silent
  markers marker member := by
    rw [Artifact.history_of_advance advanced] at member
    rcases List.mem_append.1 member with earlier | new
    · exact .inl earlier
    · rw [List.mem_singleton.1 new]
      exact .inr quiet

theorem Rewriting.silent {stage : Stage} {next : Marker}
    {request : Call (World α) ToolError ToolOutput} {left : Left α Unit}
    (rewriting : Rewriting stage next request artifact session left)
    (quiet : next.statusText? = none) : Silent artifact left := by
  cases rewriting with
  | refused => exact .of_error rfl
  | disordered _ disordered => exact .of_error (isOwn_of_advance disordered).statusText?_eq
  | unreadable _ advanced unreadable =>
    refine .of_advance advanced quiet _ ?_
    rintro _ ⟨⟩
    exact (isOwn_of_contentHash (contentHash_of_refresh unreadable)).statusText?_eq
  | @done output after middle reread _ advanced refreshed =>
    have silent : Silent artifact ((.ok (), middle), after) := .of_advance advanced quiet _ nofun
    refine ⟨nofun, fun marker member => silent.markers marker ?_⟩
    rwa [← Artifact.history_of_refresh refreshed]

theorem sign_silent (pipeline : Pipeline α) (artifact : Artifact) (session : Session (World α)) :
    Silent artifact (pipeline.sign artifact session) := by
  have ends := sign_ends pipeline artifact session
  generalize pipeline.sign artifact session = left at ends ⊢
  cases ends with
  | cancelled | missing => exact .of_error rfl
  | unnamed _ unnamed => exact .of_error (isOwn_of_identity unnamed).statusText?_eq
  | called _ _ rewriting => exact rewriting.silent rfl

theorem verify_silent (pipeline : Pipeline α) (artifact : Artifact) (session : Session (World α)) :
    Silent artifact
      ((do Work.act (pipeline.verify (← get)) : Work α TrustError Unit) artifact session) := by
  have ends := verify_ends pipeline artifact session
  rw [Work.bind_apply, Work.get_apply]
  dsimp only
  rw [Work.act_apply]
  generalize pipeline.verify artifact session = left at ends ⊢
  cases ends with
  | cancelled | missing => exact .of_error rfl
  | refused =>
    refine .of_error ?_
    rw [brokenSignature]
    split <;> rfl
  | done =>
    refine ⟨?_, fun _ member => .inl member⟩
    rintro _ ⟨⟩

theorem package_silent (pipeline : Pipeline α) (artifact : Artifact)
    (session : Session (World α)) : Silent artifact (pipeline.package artifact session) := by
  have ends := package_ends pipeline artifact session
  generalize pipeline.package artifact session = left at ends ⊢
  cases ends with
  | cancelled | missing => exact .of_error rfl
  | sameFile _ same => exact .of_error (isOwn_of_distinct same).statusText?_eq
  | unclaimed _ _ unclaimed => exact .of_error (isOwn_of_claim unclaimed).statusText?_eq
  | failed _ _ _ packing =>
    cases packing with
    | refused | unwritten => exact .of_error rfl
    | disordered _ _ disordered => exact .of_error (isOwn_of_advance disordered).statusText?_eq
  | done _ _ _ packing =>
    cases packing with
    | done _ _ advanced => exact .of_advance advanced rfl _ nofun

theorem submit_silent (pipeline : Pipeline α) (archive : Path) (artifact : Artifact)
    (session : Session (World α)) : Silent artifact (pipeline.submit archive artifact session) := by
  have ends := submit_ends pipeline archive artifact session
  generalize pipeline.submit archive artifact session = left at ends ⊢
  cases ends with
  | cancelled | refused | unreadable => exact .of_error rfl
  | unnamed _ unnamed => exact .of_error (isOwn_of_bundleId unnamed).statusText?_eq
  | uncredentialed _ uncredentialed =>
    exact .of_error (isOwn_of_credential uncredentialed).statusText?_eq
  | disordered _ _ _ _ _ disordered =>
    exact .of_error (isOwn_of_advance disordered).statusText?_eq
  | done _ _ _ _ _ advanced => exact .of_advance advanced rfl _ nofun

theorem staple_silent (pipeline : Pipeline α) (artifact : Artifact) (session : Session (World α)) :
    Silent artifact (pipeline.staple artifact session) := by
  have ends := staple_ends pipeline artifact session
  generalize pipeline.staple artifact session = left at ends ⊢
  cases ends with
  | cancelled | unaccepted | missing => exact .of_error rfl
  | called _ _ rewriting => exact rewriting.silent rfl

/-! ## The last status that was told -/

/-- The last status that the queries in a journal have told. -/
def lastTold (journal : Journal GatewayCall) : Option Status :=
  (journal.filterMap fun line => line.call.status?).getLast?

variable {journal lines : Journal GatewayCall} {stage : Stage}

theorem lastTold_append_query (journal : Journal GatewayCall) (trackingId : TrackingId)
    (credential : Credential) (reply : QueryReply) (before after : FileSystem) :
    lastTold (journal ++ [⟨.query trackingId credential reply, before, after⟩]) =
      (statusIn reply).or (lastTold journal) := by
  rw [lastTold, List.filterMap_append]
  cases told : statusIn reply <;> simp [GatewayCall.status?, told, lastTold]

/-- Only queries tell a status. -/
theorem lastTold_append (elsewhere : ∀ line ∈ lines, line.call.stage ≠ .poll) :
    lastTold (journal ++ lines) = lastTold journal := by
  have silent : lines.filterMap (fun line => line.call.status?) = [] := by
    refine List.filterMap_eq_nil_iff.2 fun line member => ?_
    cases named : line.call with
    | query => exact absurd (by rw [named]; rfl) (elsewhere line member)
    | _ => rfl
  rw [lastTold, List.filterMap_append, silent, List.append_nil, lastTold]

theorem lastTold_of_calls {first last : Recording α} (calls : first.Calls stage last)
    (elsewhere : stage ≠ .poll) : lastTold last.journal = lastTold first.journal := by
  obtain ⟨lines, grown, staged, -⟩ := calls
  rw [grown]
  exact lastTold_append fun line member => staged line member ▸ elsewhere

theorem lastTold_package (pipeline : Pipeline α) (artifact : Artifact) (session : Recording α) :
    lastTold (pipeline.recorded.package artifact session).2.journal = lastTold session.journal := by
  have ends := package_ends pipeline.recorded artifact session
  generalize pipeline.recorded.package artifact session = left at ends ⊢
  cases ends with
  | cancelled | missing | sameFile | unclaimed => rfl
  | failed _ _ _ packing | done _ _ _ packing =>
    obtain ⟨answer, called⟩ := packing.called
    rw [Session.journal_discarding] at called
    exact (congrArg lastTold called).trans (lastTold_append (List.forall_mem_singleton.2 nofun))

/-- The last status on a submission is the last that was told. -/
def Current (session : Session (World (α × Journal GatewayCall) × Submission)) : Prop :=
  session.world.2.lastStatus = lastTold session.unloaded.journal

theorem current_probed (pipeline : Pipeline α) (trackingId : TrackingId) (credential : Credential)
    (attempts : UInt32) {session : Session (World (α × Journal GatewayCall) × Submission)}
    (current : Current session) :
    Current (Session.probed (pipeline.recorded.probe (ε := ε) trackingId credential) attempts
      session) := by
  rw [Current, Session.probed, exchange_probe]
  refine (Submission.lastStatus_noteIn ..).trans ?_
  rw [current]
  exact (lastTold_append_query ..).symm

/-- A wait that begins with the last status told ends with the last status told. -/
theorem lastTold_of_awaiting {pipeline : Pipeline α} {session after : Recording α}
    (awaiting : Awaiting pipeline.recorded submission artifact session result watched reached after)
    (same : submission.lastStatus = lastTold session.journal) :
    watched.lastStatus = lastTold after.journal := by
  cases awaiting with
  | uncredentialed => exact same
  | @concluded credential _ _ _ _ last final _ polled ended _ =>
    have asked (attempts : UInt32)
        (session : Session (World (α × Journal GatewayCall) × Submission))
        (current : Current session) := pipeline.current_probed (ε := TrustError)
          submission.trackingId credential attempts current
    have rests (session : Session (World (α × Journal GatewayCall) × Submission)) (span : Nat)
        (current : Current session) : Current (session.rest span) := current
    exact ended.keeps_throughout (P := Current) polled same asked rests

/-! ## Whole runs -/

/-- An artifact has come by without the text of a status. -/
def Untold (artifact : Artifact) : Prop :=
  ∀ marker ∈ artifact.history, marker.statusText? = none

theorem untold_startingAt {marker : Marker} {files : FileSystem} {path : Path}
    (started : Artifact.startingAt marker files path = .ok artifact)
    (quiet : marker.statusText? = none) : Untold artifact := by
  obtain ⟨_, -, rfl⟩ := Artifact.startingAt_eq_ok_iff.1 started
  exact List.forall_mem_singleton.2 quiet

theorem Silent.untold {left : Left α β} (silent : Silent artifact left) (untold : Untold artifact) :
    Untold left.1.2 :=
  fun marker member => (silent.markers marker member).elim (untold marker) id

/-- Statuses are recorded only by what came after an artifact that held none. -/
theorem Untold.since {last : Option Status} {result : Except TrustError β} {after : List Marker}
    (untold : Untold artifact) (records : Records last result artifact.history after) :
    Records last result [] after where
  error := records.error
  markers marker member text told := by
    rcases records.markers marker member text told with before | recalls
    · simp [untold marker before] at told
    · exact .inr recalls

/-- Where no status is recorded there is none that was not told. -/
theorem Untold.records {last : Option Status} {result : Except TrustError β}
    (untold : Untold artifact)
    (silent : ∀ failure, result = .error failure → failure.statusText? = none) :
    Records last result [] artifact.history where
  error failure text failed told := by simp [silent failure failed] at told
  markers marker member text told := by simp [untold marker member] at told

/-- No status has been told or recorded. -/
def Unheard (artifact : Artifact) (session : Recording α) : Prop :=
  Untold artifact ∧ lastTold session.journal = none

/-- What is recorded when a result is left is the last status that was told. -/
def RecordsTold (result : Except TrustError β) (artifact : Artifact) (session : Recording α) :
    Prop :=
  Records (lastTold session.journal) result [] artifact.history

theorem ensures_unheard {step : Work (α × Journal GatewayCall) TrustError β}
    (silent : ∀ artifact session, Silent artifact (step artifact session))
    (kept : ∀ artifact session, lastTold (step artifact session).2.journal =
      lastTold session.journal) :
    Work.Ensures Unheard step (fun _ => Unheard)
      (fun failure => RecordsTold (.error failure : Except TrustError Unit)) := by
  intro artifact session unheard
  have silent := silent artifact session
  have kept := kept artifact session
  generalize step artifact session = left at silent kept ⊢
  obtain ⟨⟨failure | value, reached⟩, after⟩ := left
  · refine ((silent.untold unheard.1).records silent.error).with_result ?_
    rintro _ ⟨⟩
    rfl
  · exact ⟨silent.untold unheard.1, kept.trans unheard.2⟩

theorem submit_unheard (pipeline : Pipeline α) (archive : Path) :
    Work.Ensures Unheard (pipeline.recorded.submit archive)
      (fun submission artifact session => submission.lastStatus = none ∧ Unheard artifact session)
      (fun failure => RecordsTold (.error failure : Except TrustError Unit)) := by
  intro artifact session unheard
  have met := ensures_unheard (pipeline.recorded.submit_silent archive)
    (fun artifact session => lastTold_of_calls (pipeline.submit_calls archive artifact session)
      nofun) artifact session unheard
  have ends := submit_ends pipeline.recorded archive artifact session
  generalize pipeline.recorded.submit archive artifact session = left at met ends ⊢
  cases ends with
  | done => exact ⟨rfl, met⟩
  | _ => exact met

theorem await_unheard (pipeline : Pipeline α) (submission : Submission) :
    Work.Ensures
      (fun artifact session => submission.lastStatus = none ∧ Unheard artifact session)
      (pipeline.recorded.await (ε := Stage × TrustError) submission)
      (fun answer artifact session =>
        match answer.1 with
        | .ok _ => Untold artifact
        | .error failure => RecordsTold (.error failure : Except TrustError Unit) artifact session)
      (fun failure => RecordsTold (.error failure.2 : Except TrustError Unit)) := by
  rintro artifact session ⟨fresh, untold, unheard⟩
  obtain ⟨result, watched, reached, after, awaited, awaiting⟩ :=
    await_ends (ε := Stage × TrustError) pipeline.recorded submission artifact session
  rw [awaited]
  have readable : submission.Readable := by simp [Submission.Readable, fresh]
  have told := lastTold_of_awaiting awaiting (fresh.trans unheard.symm)
  have records := awaiting.records readable
  rw [told] at records
  cases result with
  | error failure => exact untold.since records
  | ok _ =>
    -- Only acceptance lets a wait succeed, and its marker holds no text.
    cases awaiting with
    | concluded _ _ _ concluding =>
      cases concluding with
      | accepted advanced =>
        have silent : Silent artifact (β := Unit) ((.ok (), reached), session) :=
          .of_advance advanced rfl _ nofun
        exact silent.untold untold

theorem staple_unheard (pipeline : Pipeline α) :
    Work.Ensures (fun artifact _ => Untold artifact) pipeline.recorded.staple
      (fun value => RecordsTold (.ok value))
      (fun failure => RecordsTold (.error failure : Except TrustError Unit)) := by
  intro artifact session untold
  have silent := pipeline.recorded.staple_silent artifact session
  generalize pipeline.recorded.staple artifact session = left at silent ⊢
  have records {last : Option Status} : Records last left.1.1 [] left.1.2.history :=
    (silent.untold untold).records silent.error
  obtain ⟨⟨failure | value, reached⟩, after⟩ := left <;> exact records

theorem steps_record (pipeline : Pipeline α) :
    Work.Ensures Unheard pipeline.recorded.steps (fun value => RecordsTold (.ok value))
      (fun failure => RecordsTold (.error failure.2 : Except TrustError Unit)) := by
  have sign := ensures_unheard pipeline.recorded.sign_silent fun artifact session =>
    lastTold_of_calls (pipeline.sign_calls artifact session) nofun
  have verify := ensures_unheard pipeline.recorded.verify_silent fun artifact session =>
    lastTold_of_calls (pipeline.verify_calls artifact session) nofun
  have package := ensures_unheard pipeline.recorded.package_silent pipeline.lastTold_package
  -- Removing the archive makes no call, so what holds of the journal still holds.
  exact Work.ensures_steps sign verify package
    (fun archive => (pipeline.submit_unheard archive).always (fun _ _ _ holds => holds)
      fun _ _ _ holds => holds)
    pipeline.await_unheard fun _ => pipeline.staple_unheard

/-- The markers on the artifact of a run, if it has opened one. -/
def markersLeft : Except PipelineFailure Artifact → List Marker
  | .ok artifact => artifact.history
  | .error failure => (failure.artifact.map Artifact.history).getD []

/-- What a run records is the last status that its queries have told. -/
theorem run_records (pipeline : Pipeline α) (binary : Path) (session : Session (World α)) :
    Records (lastTold (pipeline.calls binary session))
      ((pipeline.run binary session).1.mapError PipelineFailure.error) []
      (markersLeft (pipeline.run binary session).1) := by
  rw [calls, congrArg Prod.fst (pipeline.run_eq_recorded binary session)]
  have ends := run_ends pipeline.recorded binary session.recording
  generalize pipeline.recorded.run binary session.recording = left at ends ⊢
  cases ends with
  | unprepared unchecked => exact .of_silent (isOwn_of_check unchecked).statusText?_eq
  | unopened _ unopened => exact .of_silent (isOwn_of_startingAt unopened).statusText?_eq
  | failed _ opened stopped =>
    have met := pipeline.steps_record _ session.recording ⟨untold_startingAt opened rfl, rfl⟩
    rw [stopped] at met
    refine met.with_result ?_
    rintro _ ⟨⟩
    rfl
  | done _ opened finished =>
    have met := pipeline.steps_record _ session.recording ⟨untold_startingAt opened rfl, rfl⟩
    rw [finished] at met
    refine met.with_result ?_
    rintro _ ⟨⟩

/-! ## Earlier submissions -/

/-- A failed query holds no status, and a status that was told is read from its text again. -/
theorem Querying.readable {trackingId : TrackingId}
    {asked : Except TrustError Status × Session (World α)}
    (querying : Querying pipeline trackingId session asked) :
    (∀ failure, asked.1 = .error failure → failure.statusText? = none) ∧
      ∀ status, asked.1 = .ok status → status.ReadsBack := by
  cases querying with
  | uncredentialed uncredentialed =>
    refine ⟨?_, nofun⟩
    rintro _ ⟨⟩
    exact (isOwn_of_credential uncredentialed).statusText?_eq
  | refused | silent =>
    refine ⟨?_, nofun⟩
    rintro _ ⟨⟩
    rfl
  | told _ _ told =>
    refine ⟨nofun, ?_⟩
    rintro _ ⟨⟩
    exact Status.readsBack_of_statusIn told

/-- The status that a query tells is the last one told. -/
theorem Querying.lastTold_eq {trackingId : TrackingId} {status : Status}
    {session after : Recording α}
    (querying : Querying pipeline.recorded trackingId session (.ok status, after)) :
    lastTold after.journal = some status := by
  cases querying with
  | told _ answered told =>
    rw [Session.journal_of_exchange (GatewayCall.query trackingId _) answered,
      lastTold_append_query, told]
    rfl

theorem stapleBy_records (pipeline : Pipeline α) {trackingId : TrackingId} {status : Status}
    {session : Recording α} (readable : status.ReadsBack)
    (submitted : artifact.marker = .submitted trackingId) (untold : Untold artifact)
    (told : lastTold session.journal = some status) :
    RecordsTold (pipeline.recorded.stapleBy trackingId status artifact session).1.1
      (pipeline.recorded.stapleBy trackingId status artifact session).1.2
      (pipeline.recorded.stapleBy trackingId status artifact session).2 := by
  have advanced := Artifact.advance_eq_decided submitted
  cases status with
  | success =>
    rw [stapleBy_success submitted]
    have accepted : Silent artifact (β := Unit) ((.ok (), artifact.decided .success), session) :=
      .of_advance (advanced .success) rfl _ nofun
    have silent := pipeline.recorded.staple_silent (artifact.decided .success) session
    exact (silent.untold (accepted.untold untold)).records silent.error
  | invalid token =>
    rw [stapleBy_invalid submitted]
    simp only [Status.ReadsBack, Status.text] at readable
    rw [RecordsTold, told]
    refine untold.since (.of_advance (advanced (.rejected token)) ?_ ?_)
    · rintro _ _ ⟨⟩ ⟨⟩
      exact ⟨_, rfl, readable⟩
    · rintro _ ⟨⟩
      exact readable
  | inProgress | other =>
    rw [stapleBy_of_pending rfl, RecordsTold, told]
    refine ⟨?_, fun marker member text holds => ?_⟩
    · rintro _ _ ⟨⟩ ⟨⟩
      exact ⟨_, rfl, readable⟩
    · simp [untold marker member] at holds

/-- The markers on the artifact of a result, if there is one. -/
def markersOf (result : Except TrustError Artifact) : List Marker :=
  (result.toOption.map Artifact.history).getD []

/-- What is recorded where a binary of an earlier submission gets its ticket, or not, is the status
that the query has told. -/
theorem stapleSubmitted_records (pipeline : Pipeline α) (binary : Path) (trackingId : TrackingId)
    (session : Recording α) :
    let left := pipeline.recorded.stapleSubmitted binary trackingId session
    Records (lastTold left.2.journal) left.1 [] (markersOf left.1) := by
  simp only [stapleSubmitted, Act.bind_apply, Act.files_apply, Act.mk_pure_apply]
  cases adopted : Artifact.adopt trackingId session.world.files binary with
  | error failure => exact .of_silent (isOwn_of_startingAt adopted).statusText?_eq
  | ok artifact =>
    have untold : Untold artifact := untold_startingAt adopted rfl
    have submitted : artifact.marker = .submitted trackingId := by
      obtain ⟨_, -, rfl⟩ := Artifact.startingAt_eq_ok_iff.1 adopted
      rfl
    have asking := queryStatus_ends pipeline.recorded trackingId session
    dsimp only
    generalize pipeline.recorded.queryStatus trackingId session = asked at asking ⊢
    obtain ⟨failure | status, after⟩ := asked
    · exact .of_silent (asking.readable.1 failure rfl)
    · have records := pipeline.stapleBy_records (asking.readable.2 status rfl) submitted untold
        asking.lastTold_eq
      dsimp only
      generalize pipeline.recorded.stapleBy trackingId status artifact after = left at records ⊢
      obtain ⟨⟨failure | _, reached⟩, final⟩ := left
      · refine ⟨?_, List.forall_mem_nil _⟩
        rintro _ text ⟨⟩ told
        exact records.error _ text rfl told
      · refine records.with_result ?_
        rintro _ ⟨⟩

/-! ## What is printed -/

/-- Asked for a record, the program prints what the query has told. -/
theorem runStatus_record {pipeline : Pipeline α} {trackingId : TrackingId} {reading : Status}
    (asked : pipeline.queryStatus trackingId session = (.ok reading, after)) :
    TrustCommand.runStatus pipeline trackingId true session =
      (Answer.said (Answer.line (TrustCommand.statusRecord trackingId reading).pretty), after) := by
  simp only [TrustCommand.runStatus, bind, StateT.bind, ExceptT.run, asked]
  rfl

/-! ## Everywhere -/

/-- Wherever the text of a status is recorded or printed, it is read as the status that it stands
for. -/
structure KeepsStatuses (pipeline : Pipeline α) : Prop where
  /-- A wait for a submission, however often it has been waited for. -/
  waits : ∀ (trackingId : TrackingId) (timeout now : Nat) (submission : Submission)
    (artifact : Artifact) (session : Session (World α)),
    (Submission.make trackingId timeout now).Waited submission →
      ∃ result watched reached after,
        (pipeline.await submission : Work α TrustError _) artifact session =
          ((.ok (result, watched), reached), after) ∧
        Records watched.lastStatus result artifact.history reached.history
  runs : ∀ (binary : Path) (session : Session (World α)),
    Records (lastTold (pipeline.calls binary session))
      ((pipeline.run binary session).1.mapError PipelineFailure.error) []
      (markersLeft (pipeline.run binary session).1)
  staples : ∀ (binary : Path) (trackingId : TrackingId) (session : Session (World α)),
    Records
      (lastTold (pipeline.recorded.stapleSubmitted binary trackingId session.recording).2.journal)
      (pipeline.stapleSubmitted binary trackingId session).1 []
      (markersOf (pipeline.stapleSubmitted binary trackingId session).1)
  prints : ∀ (trackingId : TrackingId) (session after : Session (World α)) (reading : Status),
    pipeline.queryStatus trackingId session = (.ok reading, after) →
      Status.read reading.text = reading ∧
        TrustCommand.runStatus pipeline trackingId true session =
          (Answer.said (Answer.line (Json.record [("status", reading.text),
            ("terminal", (Status.read reading.text).isTerminal),
            ("tracking_id", trackingId.text)]).pretty), after)

theorem keepsStatuses (pipeline : Pipeline α) : pipeline.KeepsStatuses where
  waits trackingId timeout now submission artifact session waited := by
    obtain ⟨result, watched, reached, after, awaited, awaiting⟩ :=
      await_ends (ε := TrustError) pipeline submission artifact session
    exact ⟨result, watched, reached, after, awaited,
      awaiting.records (waited.readable (Submission.readable_make trackingId timeout now))⟩
  runs := pipeline.run_records
  staples binary trackingId session := by
    have same := congrArg Prod.fst
      (pipeline.stapleSubmitted_refines binary trackingId session.recording)
    rw [Session.recording_through] at same
    rw [same]
    exact pipeline.stapleSubmitted_records binary trackingId session.recording
  prints trackingId session after reading asked := by
    have querying := pipeline.queryStatus_ends trackingId session
    rw [asked] at querying
    have readable : Status.read reading.text = reading := querying.readable.2 reading rfl
    refine ⟨readable, ?_⟩
    rw [readable]
    exact runStatus_record asked

/-- A status is read alike whatever the blanks around the word, it is of the same kind whatever the
case of the word, what is printed of it is read as it again, and it is final only for one of four
words up to case and blanks.  So what a pipeline records or prints of a status is that status. -/
theorem statuses_read_back (pipeline : Pipeline α) :
    (∀ before token after, Text.isAllBlank before = true → Text.isAllBlank after = true →
      Status.read (before ++ token ++ after) = Status.read token) ∧
    (∀ token other, Text.lowered token = Text.lowered other →
      (Status.read token).kind = (Status.read other).kind) ∧
    (∀ token, Status.read (Status.read token).text = Status.read token) ∧
    (∀ token, (Status.read token).isTerminal = true ↔
      ∃ before word after, Text.isAllBlank before = true ∧ Text.isAllBlank after = true ∧
        Text.lowered word ∈ Status.finalWords ∧ token = before ++ word ++ after) ∧
    pipeline.KeepsStatuses :=
  ⟨fun _ token _ blankBefore blankAfter => Status.read_padded blankBefore blankAfter token,
    fun _ _ alike => Status.kind_read_of_lowered alike, Status.read_text_read,
    Status.isTerminal_read_iff, pipeline.keepsStatuses⟩

/-- A wait that runs out of time records the last status, which is read from its text again. -/
theorem statuses_read_back_overdue :
    let reading := hesitant.queryStatus ⟨"id-1"⟩ unasked
    Text.isAllBlank "\t " = true ∧ Text.isAllBlank "\n" = true ∧
      Status.read ("\t " ++ "Rejected" ++ "\n") = .invalid "Rejected" ∧
      Text.lowered "ACCEPTED" = Text.lowered "Accepted" ∧
      (Status.read "ACCEPTED").kind = (Status.read "Accepted").kind ∧
      overdue.Waited overdue ∧
      (overdueWait submittedAgent unasked).1 =
        (.ok (.error (.timeout ⟨"id-1"⟩ 0), overdue.note .inProgress), undecidedAgent) ∧
      Marker.verdict (.unknown "in progress") ∈ undecidedAgent.history ∧
      Status.read "in progress" = .inProgress ∧
      reading.1 = .ok .inProgress ∧
      TrustCommand.runStatus hesitant ⟨"id-1"⟩ true unasked =
        (Answer.said (Answer.line (Json.record [("status", "in progress"), ("terminal", false),
          ("tracking_id", "id-1")]).pretty), reading.2) := by
  intro reading
  obtain ⟨padded, cased, -, -, keeps⟩ := hesitant.statuses_read_back
  have blankBefore : Text.isAllBlank "\t " = true := by decide +kernel
  have blankAfter : Text.isAllBlank "\n" = true := by decide +kernel
  have alike : Text.lowered "ACCEPTED" = Text.lowered "Accepted" := by decide +kernel
  have recorded : Marker.verdict (.unknown "in progress") ∈ undecidedAgent.history :=
    List.mem_concat_self
  have told : reading.1 = .ok .inProgress := by decide +kernel
  obtain ⟨same, printed⟩ := keeps.prints ⟨"id-1"⟩ unasked reading.2 .inProgress (Prod.ext told rfl)
  obtain ⟨result, watched, reached, after, ended, records⟩ :=
    keeps.waits ⟨"id-1"⟩ 0 0 overdue submittedAgent unasked .made
  have late := overdueWait_unasked
  rw [overdueWait, ended] at late
  cases late
  refine ⟨blankBefore, blankAfter, ?_, alike, cased _ _ alike, .made, overdueWait_unasked, recorded,
    ?_, told, ?_⟩
  · rw [padded _ _ _ blankBefore blankAfter]
    decide +kernel
  · rcases records.markers _ recorded "in progress" rfl with before | recalls
    · exact absurd before (by decide)
    · exact recalls
  · rw [printed, same]
    rfl

end Pipeline

end Steward
