import Steward.Proofs.Trust.Course

/-!
# Every run takes its course

Each step of a recorded run keeps its journal lawful, and brings the run on to
the next step when it succeeds.
-/

namespace Steward.Pipeline

variable {α : Type} {binary : Path} {markers : List Marker}

/-- The sessions of recorded runs. -/
abbrev Recording (α : Type) := Session (World (α × Journal GatewayCall))

/-- What every failed step leaves behind. -/
def StaysLawful {ε : Type} (binary : Path) (_ : ε) (_ : Artifact) (after : Recording α) : Prop :=
  Lawful binary after.journal

theorem Marked.advance {artifact reached : Artifact} {next : Marker}
    (marked : Marked binary markers artifact) (advanced : artifact.advance next = .ok reached) :
    Marked binary (markers ++ [next]) reached :=
  ⟨(Artifact.path_of_advance advanced).trans marked.path,
    (Artifact.history_of_advance advanced).trans (by rw [marked.history])⟩

theorem Marked.refresh {artifact reread : Artifact} {files : FileSystem}
    (marked : Marked binary markers artifact) (refreshed : artifact.refresh files = .ok reread) :
    Marked binary markers reread :=
  ⟨(Artifact.path_of_refresh refreshed).trans marked.path,
    (Artifact.history_of_refresh refreshed).trans marked.history⟩

/-- A tool that rewrites the binary is called once, and the step is lawful if the call is. -/
theorem Rewriting.course {stage : Stage} {next : Marker} {artifact : Artifact}
    {session : Recording α} {left : Left (α × Journal GatewayCall) Unit}
    {request : Call (World α) ToolError ToolOutput}
    (note : Except ToolError ToolOutput → GatewayCall)
    (rewriting : Rewriting stage next (Exchange.recorded note request) artifact session left)
    (marked : Marked binary markers artifact)
    (lawful : ∀ answer files,
      Lawful binary (session.journal ++ [⟨note answer, session.world.files, files⟩])) :
    Work.Meets
      (fun _ reached after => Marked binary (markers ++ [next]) reached ∧ ∃ output,
        after.journal =
          session.journal ++ [⟨note (.ok output), session.world.files, after.world.files⟩])
      (StaysLawful binary) left := by
  have called {answer : Except ToolError ToolOutput} {after : Recording α}
      (answered : session.exchange (Exchange.recorded note request) = (answer, after)) :
      Lawful binary after.journal := by
    rw [Session.journal_of_exchange note answered]
    exact lawful _ _
  cases rewriting with
  | refused answered => exact called answered
  | disordered answered => exact called answered
  | unreadable answered => exact called answered
  | done answered advanced reread =>
      exact ⟨(marked.advance advanced).refresh reread, _, Session.journal_of_exchange note answered⟩

variable (pipeline : Pipeline α)

theorem sign_course :
    Work.Ensures
      (fun artifact (session : Recording α) =>
        Marked binary [.unsigned] artifact ∧ Opening binary [] session.journal)
      pipeline.recorded.sign
      (fun _ artifact session =>
        Marked binary [.unsigned, .signed] artifact ∧ Opening binary [.sign] session.journal)
      (StaysLawful binary) := by
  rintro artifact session ⟨marked, opened⟩
  have ends := sign_ends pipeline.recorded artifact session
  generalize pipeline.recorded.sign artifact session = left at ends ⊢
  cases ends with
  | cancelled | unnamed | missing => exact opened.lawful List.nil_prefix
  | @called identity left ready named rewriting =>
      have permitted (answer : Except ToolError ToolOutput) (files : FileSystem) :
          Permitted binary session.journal
            ⟨.sign artifact.path identity pipeline.settings.signing answer,
              session.world.files, files⟩ :=
        ⟨marked.path, List.map_eq_nil_iff.1 opened.stages⟩
      have met := Rewriting.course (.sign artifact.path identity pipeline.settings.signing)
        rewriting marked fun answer files =>
          opened.lawful_concat .sign (permitted answer files) rfl (by decide)
      rcases left with ⟨⟨failure | _, reached⟩, after⟩
      · exact met
      · obtain ⟨signed, output, journal⟩ := met
        refine ⟨signed, ?_⟩
        rw [journal]
        exact opened.concat .sign (permitted (.ok output) _) rfl ⟨output, rfl⟩

theorem verify_course :
    Work.Ensures
      (fun artifact (session : Recording α) =>
        Marked binary markers artifact ∧ Opening binary [.sign] session.journal)
      (do Work.act (pipeline.recorded.verify (← get)))
      (fun _ artifact session =>
        Marked binary markers artifact ∧ Opening binary [.sign, .verify] session.journal)
      (StaysLawful binary) := by
  rintro artifact session ⟨marked, opened⟩
  have ends := verify_ends pipeline.recorded artifact session
  rw [Work.bind_apply, Work.get_apply]
  dsimp only
  rw [Work.act_apply]
  generalize pipeline.recorded.verify artifact session = left at ends ⊢
  have permitted (answer : Except ToolError ToolOutput) (files : FileSystem) :
      Permitted binary session.journal
        ⟨.verify artifact.path answer, session.world.files, files⟩ :=
    ⟨marked.path, opened.succeeded⟩
  cases ends with
  | cancelled | missing => exact opened.lawful (by decide)
  | refused ready answered =>
      have journal := Session.journal_of_exchange (GatewayCall.verify artifact.path) answered
      show Lawful binary _
      rw [journal]
      exact opened.lawful_concat .verify (permitted _ _) rfl (by decide)
  | done ready answered =>
      have journal := Session.journal_of_exchange (GatewayCall.verify artifact.path) answered
      refine ⟨marked, ?_⟩
      rw [journal]
      exact opened.concat .verify (permitted _ _) rfl ⟨_, rfl⟩

theorem archivePath_of_distinct {archive : Path}
    (distinct : distinctArchivePath binary = .ok archive) : archive = archivePath binary := by
  unfold distinctArchivePath at distinct
  dsimp only at distinct
  split at distinct
  · cases distinct
  · exact (Except.ok.inj distinct).symm

/-- Once its path is claimed, nothing stands where the archive goes. -/
theorem isVacant_of_claim {archive : Path} {files : FileSystem}
    (claimed : (claim archive files).1 = .ok ()) : (files.discarded archive).IsVacant archive := by
  apply FileSystem.isVacant_of_clear
  rw [claim, FileAct.adapt_apply] at claimed
  cases cleared : (FileAct.clear archive files).1 with
  | ok _ => rfl
  | error failure =>
      rw [cleared] at claimed
      cases claimed

theorem package_course :
    Work.Ensures
      (fun artifact (session : Recording α) =>
        Marked binary markers artifact ∧ Opening binary [.sign, .verify] session.journal)
      pipeline.recorded.package
      (fun archive artifact session =>
        archive = archivePath binary ∧ session.world.files.isFile archive = true ∧
          Marked binary (markers ++ [.packaged archive]) artifact ∧
            Opening binary [.sign, .verify, .package] session.journal)
      (StaysLawful binary) := by
  rintro artifact session ⟨marked, opened⟩
  have ends := package_ends pipeline.recorded artifact session
  generalize pipeline.recorded.package artifact session = left at ends ⊢
  have permitted {archive : Path} (distinct : distinctArchivePath artifact.path = .ok archive)
      (claimed : (claim archive session.world.files).1 = .ok ())
      (answer : Except ToolError Unit) (files : FileSystem) :
      Permitted binary session.journal
        ⟨.package artifact.path archive answer, session.world.files.discarded archive, files⟩ :=
    ⟨marked.path, marked.path ▸ archivePath_of_distinct distinct, opened.succeeded,
      isVacant_of_claim claimed⟩
  cases ends with
  | cancelled | missing | sameFile | unclaimed => exact opened.lawful (by decide)
  | @failed archive failure reached after ready distinct claimed packing =>
      have called {answer : Except ToolError Unit} {after : Recording α}
          (answered : (session.discarding archive).exchange
            (pipeline.recorded.packager artifact.path archive) = (answer, after)) :
          Lawful binary after.journal := by
        rw [Session.journal_of_exchange (GatewayCall.package artifact.path archive) answered]
        exact opened.lawful_concat .package (permitted distinct claimed answer _) rfl (by decide)
      show Lawful binary after.journal
      cases packing with
      | refused answered | unwritten answered | disordered answered => exact called answered
  | @done archive reached after ready distinct claimed packing =>
      cases packing with
      | done answered written advanced =>
          have journal :=
            Session.journal_of_exchange (GatewayCall.package artifact.path archive) answered
          refine ⟨marked.path ▸ archivePath_of_distinct distinct, written,
            marked.advance advanced, ?_⟩
          rw [journal]
          exact opened.concat .package (permitted distinct claimed (.ok ()) _) rfl rfl

theorem submit_course :
    Work.Ensures
      (fun artifact (session : Recording α) =>
        session.world.files.isFile (archivePath binary) = true ∧
          Marked binary markers artifact ∧
            Opening binary [.sign, .verify, .package] session.journal)
      (pipeline.recorded.submit (archivePath binary))
      (fun submission artifact session =>
        Marked binary (markers ++ [.submitted submission.trackingId]) artifact ∧
          Asked binary submission.trackingId 0 session.journal)
      (StaysLawful binary) := by
  rintro artifact session ⟨written, marked, opened⟩
  have ends := submit_ends pipeline.recorded (archivePath binary) artifact session
  generalize pipeline.recorded.submit (archivePath binary) artifact session = left at ends ⊢
  have permitted (bundleId : String) (credential : Credential)
      (answer : Except ToolError ToolOutput) (files : FileSystem) :
      Permitted binary session.journal
        ⟨.submit (archivePath binary) bundleId credential answer, session.world.files, files⟩ :=
    ⟨rfl, opened.succeeded, written⟩
  have called {bundleId : String} {credential : Credential}
      {answer : Except ToolError ToolOutput} {after : Recording α}
      (answered : session.exchange
        (pipeline.recorded.notary.submit (archivePath binary) bundleId credential) =
          (answer, after)) : Lawful binary after.journal := by
    rw [Session.journal_of_exchange
      (GatewayCall.submit (archivePath binary) bundleId credential) answered]
    exact opened.lawful_concat .submit (permitted bundleId credential answer _) rfl (by decide)
  cases ends with
  | cancelled | unnamed | uncredentialed => exact opened.lawful (by decide)
  | refused _ _ _ answered => exact called answered
  | unreadable _ _ _ answered => exact called answered
  | disordered _ _ _ answered => exact called answered
  | @done bundleId credential output after trackingId submitted _ _ _ answered tracked advanced =>
      have journal := Session.journal_of_exchange
        (GatewayCall.submit (archivePath binary) bundleId credential) answered
      refine ⟨marked.advance advanced, ?_⟩
      rw [journal]
      exact (opened.concat .submit (permitted bundleId credential (.ok output) _) rfl
        ⟨output, rfl⟩).asked ⟨_, List.mem_append_right _ (List.mem_singleton_self _), tracked⟩

section Waiting

variable {trackingId : TrackingId} {credential : Credential} {schedule : Schedule}
  {started : Nat} {attempts : UInt32}
  {session : Session (World (α × Journal GatewayCall) × Submission)}

/-- Every session that a wait comes through has asked some queries and heard nothing final. -/
theorem asked_of_polled {first : UInt32}
    {origin : Session (World (α × Journal GatewayCall) × Submission)}
    (polled : Session.Polled Session.noOverrun schedule
      (pipeline.recorded.probe (ε := TrustError) trackingId credential) started first origin
      attempts session)
    (before : Asked binary trackingId 0 origin.unloaded.journal) :
    ∃ queries, Asked binary trackingId queries session.unloaded.journal := by
  refine polled.keeps (P := fun session =>
    ∃ queries, Asked binary trackingId queries session.unloaded.journal) ⟨0, before⟩ ?_
    fun _ _ asked => asked
  rintro attempts session ⟨queries, asked⟩ pending
  obtain ⟨answer, files, later, journal, told⟩ :=
    pipeline.journal_probed trackingId credential attempts session
  refine ⟨queries + 1, ?_⟩
  rw [journal]
  exact asked.concat (Except.ok.inj (told.symm.trans pending))

/-- A wait ends with a lawful journal, and with an accepted one if it ends with acceptance. -/
theorem lawful_of_pollEnd {result : Except TrustError (Outcome Verdict)}
    {final : Session (World (α × Journal GatewayCall) × Submission)} {queries : Nat}
    (ended : Session.PollEnd Session.noOverrun schedule
      (pipeline.recorded.probe (ε := TrustError) trackingId credential) started attempts session
      (result, final))
    (asked : Asked binary trackingId queries session.unloaded.journal) :
    Lawful binary final.unloaded.journal ∧
      (result = .ok (.ready .success) → Accepted binary trackingId final.unloaded.journal) := by
  obtain ⟨answer, files, later, journal, told⟩ :=
    pipeline.journal_probed trackingId credential attempts session
  have lawful : Lawful binary (Session.probed
      (pipeline.recorded.probe (ε := TrustError) trackingId credential) attempts
      session).unloaded.journal := by
    rw [journal]
    exact asked.lawful_concat
  cases ended with
  | cancelled => exact ⟨asked.lawful, nofun⟩
  | failed => exact ⟨lawful, nofun⟩
  | timedOut => exact ⟨lawful, nofun⟩
  | crashed => exact ⟨lawful, nofun⟩
  | ready live answered =>
      refine ⟨lawful, ?_⟩
      rintro ⟨⟩
      rw [journal]
      exact asked.accepted (Except.ok.inj (told.symm.trans answered))
  | disturbed =>
      refine ⟨?_, nofun⟩
      rw [Session.journal, Session.unloaded]
      dsimp only
      rw [Session.world_restFor]
      exact lawful

end Waiting

theorem await_course {ε : Type} (submission : Submission) :
    Work.Ensures
      (fun artifact (session : Recording α) =>
        Marked binary markers artifact ∧ Asked binary submission.trackingId 0 session.journal)
      (pipeline.recorded.await (ε := ε) submission)
      (fun answer artifact session =>
        match answer.1 with
        | .ok _ =>
          Marked binary (markers ++ [.verdict .success]) artifact ∧
            Accepted binary submission.trackingId session.journal
        | .error _ => Lawful binary session.journal)
      (StaysLawful binary) := by
  rintro artifact session ⟨marked, asked⟩
  obtain ⟨result, watched, reached, after, awaited, awaiting⟩ :=
    await_ends (ε := ε) pipeline.recorded submission artifact session
  rw [awaited]
  cases awaiting with
  | uncredentialed => exact asked.lawful
  | concluded credentialed polled ended concluding =>
      obtain ⟨queries, later⟩ := pipeline.asked_of_polled polled asked
      obtain ⟨lawful, accepted⟩ := pipeline.lawful_of_pollEnd ended later
      cases concluding with
      | accepted advanced => exact ⟨marked.advance advanced, accepted rfl⟩
      | rejected | unknown | timedOut | disordered | cancelled => exact lawful

theorem staple_course (trackingId : TrackingId) :
    Work.Ensures
      (fun artifact (session : Recording α) =>
        Marked binary [.unsigned, .signed, .packaged (archivePath binary),
            .submitted trackingId, .verdict .success] artifact ∧
          Accepted binary trackingId session.journal)
      pipeline.recorded.staple
      (fun _ artifact session =>
        Lawful binary session.journal ∧ Finished binary session.journal artifact)
      (StaysLawful binary) := by
  rintro artifact session ⟨marked, accepted⟩
  have ends := staple_ends pipeline.recorded artifact session
  generalize pipeline.recorded.staple artifact session = left at ends ⊢
  cases ends with
  | cancelled | unaccepted | missing => exact accepted.lawful
  | called ready verdict rewriting =>
      obtain rfl := marked.path
      have met := Rewriting.course (.staple artifact.path) rewriting marked
        fun answer files => accepted.lawful_concat
      rcases left with ⟨⟨failure | _, reached⟩, after⟩
      · exact met
      · obtain ⟨stapled, output, journal⟩ := met
        obtain ⟨line, member, submitted⟩ := accepted.submitted
        refine ⟨?_, ⟨_, _, output, journal, rfl⟩, trackingId, ⟨line, ?_, submitted⟩,
          stapled.history⟩
        · rw [journal]
          exact accepted.lawful_concat
        · rw [journal]
          exact List.mem_append_left _ member

/-- All steps together take an unsigned binary through its course or stop on the way. -/
theorem steps_course :
    Work.Ensures
      (fun artifact (session : Recording α) =>
        Marked binary [.unsigned] artifact ∧ Opening binary [] session.journal)
      pipeline.recorded.steps
      (fun _ artifact session =>
        Lawful binary session.journal ∧ Finished binary session.journal artifact)
      (StaysLawful binary) := by
  have submitted (archive : Path) : Work.Ensures
      (fun artifact (session : Recording α) =>
        archive = archivePath binary ∧ session.world.files.isFile archive = true ∧
          Marked binary [.unsigned, .signed, .packaged archive] artifact ∧
            Opening binary [.sign, .verify, .package] session.journal)
      (Work.always (inStage .submit (pipeline.recorded.submit archive)) (FileAct.discard archive))
      (fun submission artifact session =>
        Marked binary [.unsigned, .signed, .packaged (archivePath binary),
            .submitted submission.trackingId] artifact ∧
          Asked binary submission.trackingId 0 session.journal)
      (StaysLawful binary) := by
    refine .assuming fun (named : archive = archivePath binary) => ?_
    subst named
    apply pipeline.submit_course.always
    · rintro submission artifact after ⟨marked, asked⟩
      rw [Session.journal_discarding]
      exact ⟨marked, asked⟩
    · intro failure artifact after lawful
      rw [StaysLawful, Session.journal_discarding]
      exact lawful
  exact Work.ensures_steps pipeline.sign_course pipeline.verify_course pipeline.package_course
    submitted (fun submission => pipeline.await_course submission)
    fun submission => pipeline.staple_course submission.trackingId

/-! ## Whole runs -/

/-- What was checked before a run that has begun. -/
theorem prepared_of_check (checked : pipeline.check binary = .ok ()) :
    Text.trim pipeline.settings.identity ≠ "" ∧ Text.trim pipeline.settings.bundleId ≠ "" ∧
      pipeline.settings.credential ≠ none ∧ (archivePath binary).sameParts binary = false := by
  obtain ⟨identity, identified, checked⟩ := Except.bind_eq_ok_iff.1 checked
  obtain ⟨bundleId, bundled, checked⟩ := Except.bind_eq_ok_iff.1 checked
  obtain ⟨credential, credentialed, checked⟩ := Except.bind_eq_ok_iff.1 checked
  obtain ⟨archive, distinct, -⟩ := Except.bind_eq_ok_iff.1 checked
  rw [Except.mapError_eq_ok_iff] at identified bundled credentialed distinct
  constructor
  · intro blank
    simp [Pipeline.identity, blank] at identified
  constructor
  · intro blank
    simp [Pipeline.bundleId, blank] at bundled
  constructor
  · intro missing
    simp [Pipeline.credential, missing] at credentialed
  · cases same : (archivePath binary).sameParts binary with
    | false => rfl
    | true => simp [distinctArchivePath, same] at distinct

/-- A binary that has been opened can be read. -/
theorem readable_of_track {files : FileSystem} {artifact : Artifact}
    (opened : Artifact.track files binary = .ok artifact) :
    Marked binary [.unsigned] artifact ∧ ∃ bytes, files.read binary = .ok bytes := by
  obtain ⟨sha256, hashed, rfl⟩ := Artifact.startingAt_eq_ok_iff.1 opened
  obtain ⟨bytes, read, -⟩ := Artifact.contentHash_eq_ok_iff.1 hashed
  exact ⟨⟨rfl, rfl⟩, bytes, read⟩

theorem prepared_of_begun {files : FileSystem} {artifact : Artifact}
    (checked : pipeline.check binary = .ok ())
    (opened : Artifact.track files binary = .ok artifact) :
    ¬Unprepared pipeline binary files := by
  obtain ⟨identity, bundleId, credential, distinct⟩ := pipeline.prepared_of_check checked
  obtain ⟨-, bytes, readable⟩ := readable_of_track opened
  intro unprepared
  cases unprepared with
  | identity blank => exact identity blank
  | bundleId blank => exact bundleId blank
  | credential missing => exact credential missing
  | archive same => simp [distinct] at same
  | binary unreadable => exact unreadable bytes readable

/-- What holds of the calls of a run and of its result. -/
structure TakesCourse (pipeline : Pipeline α) (binary : Path) (files : FileSystem)
    (journal : Journal GatewayCall) (result : Except PipelineFailure Artifact) : Prop where
  /-- A run that is not prepared makes no call. -/
  unprepared : Unprepared pipeline binary files → journal = []
  /-- The calls come in the order of the steps. -/
  inOrder : InOrder (stagesOf journal)
  /-- Each call was permitted by the ones before it. -/
  permitted : journal.Each (Permitted binary)
  /-- A run that succeeds has attached the ticket to an artifact that took every step. -/
  finished : ∀ artifact, result = .ok artifact → Finished binary journal artifact

/-- A run that stops before its first call. -/
theorem takesCourse_of_stopped {files : FileSystem} {failure : PipelineFailure} :
    TakesCourse pipeline binary files [] (.error failure) where
  unprepared _ := rfl
  inOrder := ⟨0, List.nil_prefix⟩
  permitted := Journal.each_nil
  finished := nofun

/-- Whatever the gateways, the token and the files do, a run takes its course. -/
theorem run_takesCourse (binary : Path) (session : Session (World α)) :
    TakesCourse pipeline binary session.world.files (pipeline.calls binary session)
      (pipeline.run binary session).1 := by
  have refined := pipeline.run_refines binary session.recording
  rw [Session.recording_through] at refined
  rw [refined, calls, run]
  cases checked : pipeline.recorded.check binary with
  | error failure => exact takesCourse_of_stopped pipeline
  | ok _ =>
    dsimp only
    rw [Session.files_recording]
    cases opened : Artifact.track session.world.files binary with
    | error failure => exact takesCourse_of_stopped pipeline
    | ok artifact =>
      have prepared := pipeline.prepared_of_begun checked opened
      have met := pipeline.steps_course artifact session.recording
        ⟨(readable_of_track opened).1, rfl, List.forall_mem_nil _, Journal.each_nil⟩
      dsimp only
      generalize pipeline.recorded.steps artifact session.recording = left at met ⊢
      rcases left with ⟨⟨⟨stage, failure⟩ | _, reached⟩, after⟩
      · have lawful : Lawful binary after.journal := met
        refine ⟨fun unprepared => absurd unprepared prepared, lawful.inOrder, lawful.permitted, ?_⟩
        rintro final ⟨⟩
      · obtain ⟨lawful, finished⟩ := met
        refine ⟨fun unprepared => absurd unprepared prepared, lawful.inOrder, lawful.permitted, ?_⟩
        rintro final ⟨⟩
        exact finished

end Steward.Pipeline
