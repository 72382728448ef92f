import Steward.Proofs.Trust.Calls
import Steward.Proofs.Trust.Footprint

/-!
# The phases of a run

What a run does to its archive falls into phases: before the signature has been
checked, ready to claim the path of the archive, holding the archive, and after
it has been removed.  A property of sessions for each phase that calls keep and
that claiming and removing the archive pass on to the next phase holds wherever
the run stops.
-/

namespace Steward

variable {α : Type}

/-- The last thing that has happened in a session is a call of a step. -/
def Session.JustCalled (stage : Stage) (session : Session (World (α × Journal GatewayCall))) :
    Prop :=
  ∃ line ∈ session.journal, line.call.stage = stage ∧ line.after = session.world.files

theorem Session.justCalled_of_exchange {β : Type} {stage : Stage} {note : β → GatewayCall}
    {request : Exchange (World α) β} {answer : β}
    {session after : Session (World (α × Journal GatewayCall))}
    (noted : ∀ answer, (note answer).stage = stage)
    (answered : session.exchange (request.recorded note) = (answer, after)) :
    after.JustCalled stage := by
  rw [JustCalled, journal_of_exchange note answered]
  exact ⟨_, List.mem_append_right _ (List.mem_singleton_self _), noted answer, rfl⟩

namespace Pipeline

/-- Packing is a call. -/
theorem Packing.calls {pipeline : Pipeline α} {archive : Path} {artifact : Artifact}
    {session : Recording α} {left : Left (α × Journal GatewayCall) Unit}
    (packing : Packing pipeline.recorded archive artifact session left) :
    session.Calls .package left.2 ∧ left.2.JustCalled .package := by
  obtain ⟨answer, journal⟩ := packing.called
  constructor
  · exact ⟨_, journal, by simp [GatewayCall.stage], .single ..⟩
  · rw [Session.JustCalled, journal]
    exact ⟨_, List.mem_append_right _ (List.mem_singleton_self _), rfl, rfl⟩

/-- Properties of sessions for the phases of a run, and what passes one on to the next. -/
structure Phases (binary archive : Path) (early ready held late settled : Recording α → Prop) :
    Prop where
  /-- The binary has been signed, or that has failed. -/
  sign : ∀ session after, early session → session.Calls .sign after → early after
  /-- The signature has been checked, and if it has been called for, the archive comes next. -/
  verify : ∀ session after, early session → session.Calls .verify after →
    early after ∧ (after.JustCalled .verify → ready after)
  /-- A run may stop before there is an archive. -/
  early_settled : ∀ session, early session → settled session
  /-- A run may stop because the path of the archive cannot be claimed. -/
  unclaimed : ∀ session failure, ready session →
    (claim archive session.world.files).1 = .error failure → settled (session.discarding archive)
  /-- The binary has been packed, or that has failed. -/
  package : ∀ session after, ready session → session.world.files.isFile binary = true →
    distinctArchivePath binary = .ok archive → (claim archive session.world.files).1 = .ok () →
      (session.discarding archive).Calls .package after → after.JustCalled .package → held after
  /-- The archive has been handed in, or that has failed. -/
  submit : ∀ session after, held session → session.Calls .submit after → held after
  /-- The archive has been removed. -/
  drop : ∀ session, held session → late (session.discarding archive)
  /-- The verdict has been asked for, or the ticket has been attached. -/
  finish : ∀ session after stage, stage = .poll ∨ stage = .staple → late session →
    session.Calls stage after → late after
  /-- A run may stop at any time after that. -/
  late_settled : ∀ session, late session → settled session

namespace Phases

variable {binary archive : Path} {early ready held late settled : Recording α → Prop}
  (phases : Phases binary archive early ready held late settled) (pipeline : Pipeline α)

/-- What every failed step leaves behind. -/
def Stops {ε : Type} (settled : Recording α → Prop) (_ : ε) (_ : Artifact)
    (after : Recording α) : Prop :=
  settled after

include phases

theorem sign_ensures :
    Work.Ensures (fun artifact session => artifact.path = binary ∧ early session)
      pipeline.recorded.sign (fun _ artifact session => artifact.path = binary ∧ early session)
      (Stops settled) := by
  rintro artifact session ⟨named, before⟩
  have after := phases.sign session _ before (pipeline.sign_calls artifact session)
  have path := pipeline.recorded.sign_path artifact session
  generalize pipeline.recorded.sign artifact session = left at after path ⊢
  rcases left with ⟨⟨failure | _, reached⟩, later⟩
  · exact phases.early_settled later after
  · exact ⟨path.trans named, after⟩

theorem verify_ensures :
    Work.Ensures (fun artifact session => artifact.path = binary ∧ early session)
      (do Work.act (pipeline.recorded.verify (← get)))
      (fun _ artifact session => artifact.path = binary ∧ early session ∧ ready session)
      (Stops settled) := by
  rintro artifact session ⟨named, before⟩
  have after := phases.verify session _ before (pipeline.verify_calls artifact session)
  have ends := verify_ends pipeline.recorded artifact session
  rw [Work.bind_apply, Work.get_apply]
  dsimp only
  rw [Work.act_apply]
  generalize pipeline.recorded.verify artifact session = left at after ends ⊢
  cases ends with
  | cancelled | missing | refused => exact phases.early_settled _ after.1
  | done ready answered =>
      exact ⟨named, after.1,
        after.2 (Session.justCalled_of_exchange (fun _ => rfl) answered)⟩

theorem package_ensures (named : archive = archivePath binary) :
    Work.Ensures (fun artifact session => artifact.path = binary ∧ early session ∧ ready session)
      pipeline.recorded.package (fun packed _ session => packed = archive ∧ held session)
      (Stops settled) := by
  rintro artifact session ⟨rfl, before, readied⟩
  have ends := package_ends pipeline.recorded artifact session
  generalize pipeline.recorded.package artifact session = left at ends ⊢
  have is {other : Path} (distinct : distinctArchivePath artifact.path = .ok other) :
      other = archive :=
    (archivePath_of_distinct distinct).trans named.symm
  cases ends with
  | cancelled | missing | sameFile => exact phases.early_settled session before
  | unclaimed _ distinct unclaimed =>
      obtain rfl := is distinct
      exact phases.unclaimed session _ readied unclaimed
  | @failed _ _ _ after ready distinct claimed packing =>
      obtain rfl := is distinct
      obtain ⟨calls, called⟩ := packing.calls
      have holds :=
        phases.package session after readied ready.present distinct claimed calls called
      exact phases.late_settled _ (phases.drop after holds)
  | @done _ _ after ready distinct claimed packing =>
      obtain rfl := is distinct
      obtain ⟨calls, called⟩ := packing.calls
      exact ⟨rfl,
        phases.package session after readied ready.present distinct claimed calls called⟩

theorem submit_ensures (packed : Path) :
    Work.Ensures (fun _ session => packed = archive ∧ held session)
      (Work.always (inStage .submit (pipeline.recorded.submit packed)) (FileAct.discard packed))
      (fun _ _ session => late session) (Stops settled) := by
  rintro artifact session ⟨rfl, holds⟩
  have after := phases.submit session _ holds (pipeline.submit_calls packed artifact session)
  rw [Work.always_apply, Work.inStage_apply]
  generalize pipeline.recorded.submit packed artifact session = left at after ⊢
  have dropped := phases.drop left.2 after
  rcases left with ⟨⟨failure | submission, reached⟩, later⟩
  · exact phases.late_settled _ dropped
  · exact dropped

theorem await_ensures {ε : Type} (submission : Submission) :
    Work.Ensures (fun _ session => late session) (pipeline.recorded.await (ε := ε) submission)
      (fun answer _ session =>
        match answer.1 with
        | .ok _ => late session
        | .error _ => settled session)
      (Stops settled) := by
  intro artifact session before
  have after := phases.finish session _ .poll (.inl rfl) before
    (pipeline.await_calls (ε := ε) submission artifact session)
  generalize pipeline.recorded.await submission artifact session = left at after ⊢
  rcases left with ⟨⟨failure | ⟨verdict, watched⟩, reached⟩, later⟩
  · exact phases.late_settled later after
  · cases verdict with
    | ok _ => exact after
    | error failure => exact phases.late_settled later after

theorem staple_ensures :
    Work.Ensures (fun _ session => late session) pipeline.recorded.staple
      (fun _ _ session => late session) (Stops settled) := by
  intro artifact session before
  have after := phases.finish session _ .staple (.inr rfl) before
    (pipeline.staple_calls artifact session)
  generalize pipeline.recorded.staple artifact session = left at after ⊢
  rcases left with ⟨⟨failure | _, reached⟩, later⟩
  · exact phases.late_settled later after
  · exact after

theorem steps_ensure (named : archive = archivePath binary) :
    Work.Ensures (fun artifact session => artifact.path = binary ∧ early session)
      pipeline.recorded.steps (fun _ _ session => late session) (Stops settled) :=
  Work.ensures_steps (phases.sign_ensures pipeline) (phases.verify_ensures pipeline)
    (phases.package_ensures pipeline named) (phases.submit_ensures pipeline)
    (phases.await_ensures pipeline) fun _ => phases.staple_ensures pipeline

/-- A run that begins early ends settled. -/
theorem run_settles (named : archive = archivePath binary) (session : Session (World α))
    (begun : early session.recording) :
    settled (pipeline.recorded.run binary session.recording).2 := by
  have ends := run_ends pipeline.recorded binary session.recording
  generalize pipeline.recorded.run binary session.recording = left at ends ⊢
  cases ends with
  | unprepared | unopened => exact phases.early_settled _ begun
  | @failed artifact _ _ _ _ checked opened stopped =>
      have met := phases.steps_ensure pipeline named artifact session.recording
        ⟨(readable_of_track opened).1.path, begun⟩
      rw [stopped] at met
      exact met
  | @done artifact _ after checked opened finished =>
      have met := phases.steps_ensure pipeline named artifact session.recording
        ⟨(readable_of_track opened).1.path, begun⟩
      rw [finished] at met
      exact phases.late_settled after met

end Phases

end Pipeline

end Steward
