import Steward.Proofs.Session.Gaps
import Steward.Proofs.Trust.Artifact
import Steward.Proofs.Trust.Exits
import Steward.Proofs.Trust.Journal

/-!
# What steps do besides calling

Every step makes calls of one gateway, and apart from packaging a step changes
nothing itself: what has become of the files is what its calls have made of
them.  Packaging clears the path of its archive before the call, and again
after a failure.
-/

namespace Steward

variable {α : Type}

/-- From one session to a later one only calls of one step have been made, and nothing else has
been done to the files. -/
def Session.Calls (stage : Stage) (first last : Session (World (α × Journal GatewayCall))) : Prop :=
  ∃ lines, last.journal = first.journal ++ lines ∧ (∀ line ∈ lines, line.call.stage = stage) ∧
    Journal.Explains first.world.files lines last.world.files

/-- Between calls a path is discarded. -/
theorem Session.Gaps.discarding {step : FileSystem → FileSystem → Prop}
    {session : Session (World (α × Journal GatewayCall))} {path : Path}
    (stepped : step session.world.files (session.world.files.discarded path)) :
    session.Gaps step (session.discarding path) :=
  ⟨[], (List.append_nil _).symm, Relation.ReflTransGen.single stepped⟩

namespace Session.Calls

variable {stage : Stage} {first middle last : Session (World (α × Journal GatewayCall))}

theorem refl (session : Session (World (α × Journal GatewayCall))) :
    session.Calls stage session :=
  ⟨[], by simp, by simp, .refl _⟩

theorem trans (earlier : first.Calls stage middle) (later : middle.Calls stage last) :
    first.Calls stage last := by
  obtain ⟨lines, grown, stages, explained⟩ := earlier
  obtain ⟨more, grownMore, stagesMore, explainedMore⟩ := later
  refine ⟨lines ++ more, by rw [grownMore, grown, List.append_assoc], ?_,
    explained.append explainedMore⟩
  intro line member
  rcases List.mem_append.1 member with earlier | later
  · exact stages line earlier
  · exact stagesMore line later

/-- A recorded request is one call. -/
theorem exchange {β : Type} {note : β → GatewayCall} (noted : ∀ answer, (note answer).stage = stage)
    (request : Exchange (World α) β) (session : Session (World (α × Journal GatewayCall))) :
    session.Calls stage (session.exchange (request.recorded note)).2 :=
  ⟨_, journal_exchange note request session, by simp [noted], .single ..⟩

theorem of_exchange {β : Type} {note : β → GatewayCall} {request : Exchange (World α) β}
    {answer : β} (noted : ∀ answer, (note answer).stage = stage)
    (answered : first.exchange (request.recorded note) = (answer, last)) :
    first.Calls stage last := by
  have calls := exchange noted request first
  rwa [answered] at calls

/-- Calls have no changes between them, whatever those may be. -/
theorem gaps {step : FileSystem → FileSystem → Prop} (calls : first.Calls stage last) :
    first.Gaps step last := by
  obtain ⟨lines, grown, -, explained⟩ := calls
  exact ⟨lines, grown, explained.gaps.mono nofun⟩

/-- No call is forgotten. -/
theorem mem_journal {line : Line GatewayCall} (calls : first.Calls stage last)
    (member : line ∈ first.journal) : line ∈ last.journal := by
  obtain ⟨lines, grown, -, -⟩ := calls
  rw [grown]
  exact List.mem_append_left _ member

/-- A call that is new is a call of the step. -/
theorem stage_of_mem {line : Line GatewayCall} (calls : first.Calls stage last)
    (member : line ∈ last.journal) : line ∈ first.journal ∨ line.call.stage = stage := by
  obtain ⟨lines, grown, stages, -⟩ := calls
  rw [grown] at member
  exact (List.mem_append.1 member).imp_right (stages line)

/-- What each call of the step keeps is kept. -/
theorem keeps {P : FileSystem → Prop} (calls : first.Calls stage last)
    (each : ∀ line ∈ last.journal, line.call.stage = stage → P line.before → P line.after)
    (before : P first.world.files) : P last.world.files := by
  obtain ⟨lines, grown, stages, explained⟩ := calls
  refine explained.keeps (fun line member => ?_) before
  exact each line (grown ▸ List.mem_append_right _ member) (stages line member)

end Session.Calls

namespace Pipeline

variable (pipeline : Pipeline α) {artifact : Artifact}
  {session : Session (World (α × Journal GatewayCall))}

theorem Rewriting.calls {stage : Stage} {next : Marker}
    {left : Left (α × Journal GatewayCall) Unit} {request : Call (World α) ToolError ToolOutput}
    {note : Except ToolError ToolOutput → GatewayCall}
    (noted : ∀ answer, (note answer).stage = stage)
    (rewriting : Rewriting stage next (Exchange.recorded note request) artifact session left) :
    session.Calls stage left.2 := by
  cases rewriting with
  | refused answered | disordered answered | unreadable answered | done answered =>
      exact .of_exchange noted answered

theorem sign_calls (artifact : Artifact) (session : Session (World (α × Journal GatewayCall))) :
    session.Calls .sign (pipeline.recorded.sign artifact session).2 := by
  have ends := sign_ends pipeline.recorded artifact session
  generalize pipeline.recorded.sign artifact session = left at ends ⊢
  cases ends with
  | cancelled | unnamed | missing => exact .refl _
  | called _ _ rewriting => exact rewriting.calls fun _ => rfl

/-- Signing is about the same binary throughout. -/
theorem sign_path (artifact : Artifact) (session : Session (World α)) :
    (pipeline.sign artifact session).1.2.path = artifact.path := by
  have ends := sign_ends pipeline artifact session
  generalize pipeline.sign artifact session = left at ends ⊢
  cases ends with
  | cancelled | unnamed | missing => rfl
  | called _ _ rewriting =>
      cases rewriting with
      | refused | disordered => rfl
      | unreadable _ advanced => exact Artifact.path_of_advance advanced
      | done _ advanced reread =>
          exact (Artifact.path_of_refresh reread).trans (Artifact.path_of_advance advanced)

theorem verify_calls (artifact : Artifact) (session : Session (World (α × Journal GatewayCall))) :
    session.Calls .verify (pipeline.recorded.verify artifact session).2 := by
  have ends := verify_ends pipeline.recorded artifact session
  generalize pipeline.recorded.verify artifact session = left at ends ⊢
  cases ends with
  | cancelled | missing => exact .refl _
  | refused _ answered | done _ answered => exact .of_exchange (fun _ => rfl) answered

/-- Packing makes one call, and nothing else is done to the files. -/
theorem Packing.called {archive : Path} {left : Left (α × Journal GatewayCall) Unit}
    (packing : Packing pipeline.recorded archive artifact session left) :
    ∃ answer, left.2.journal = session.journal ++
      [⟨.package artifact.path archive answer, session.world.files, left.2.world.files⟩] := by
  cases packing with
  | refused answered | unwritten answered | disordered answered | done answered =>
      exact ⟨_, Session.journal_of_exchange (GatewayCall.package artifact.path archive) answered⟩

theorem submit_calls (archive : Path) (artifact : Artifact)
    (session : Session (World (α × Journal GatewayCall))) :
    session.Calls .submit (pipeline.recorded.submit archive artifact session).2 := by
  have ends := submit_ends pipeline.recorded archive artifact session
  generalize pipeline.recorded.submit archive artifact session = left at ends ⊢
  cases ends with
  | cancelled | unnamed | uncredentialed => exact .refl _
  | refused _ _ _ answered | unreadable _ _ _ answered | disordered _ _ _ answered
  | done _ _ _ answered => exact .of_exchange (fun _ => rfl) answered

theorem probed_calls {ε : Type} (trackingId : TrackingId) (credential : Credential)
    (attempts : UInt32) (session : Session (World (α × Journal GatewayCall) × Submission)) :
    session.unloaded.Calls .poll
      (Session.probed (pipeline.recorded.probe (ε := ε) trackingId credential) attempts
        session).unloaded := by
  rw [Session.probed, exchange_probe]
  have noted (answer : Except ToolError ToolOutput) :
      (GatewayCall.query trackingId credential answer).stage = .poll := rfl
  exact .exchange noted (pipeline.notary.query trackingId credential) session.unloaded

/-- A wait only queries as long as it lasts. -/
theorem polled_calls {ε : Type} {schedule : Schedule} {trackingId : TrackingId}
    {credential : Credential} {started : Nat} {attempts : UInt32} {submission : Submission}
    {last : Session (World (α × Journal GatewayCall) × Submission)}
    (polled : Session.Polled Session.noOverrun schedule
      (pipeline.recorded.probe (ε := ε) trackingId credential) started 0
      (session.carrying submission) attempts last) :
    session.Calls .poll last.unloaded :=
  polled.keeps (P := fun later => session.Calls .poll later.unloaded) (.refl _)
    (fun _ _ calls _ => calls.trans (pipeline.probed_calls ..)) fun _ _ calls => calls

theorem await_calls {ε : Type} (submission : Submission) (artifact : Artifact)
    (session : Session (World (α × Journal GatewayCall))) :
    session.Calls .poll (pipeline.recorded.await (ε := ε) submission artifact session).2 := by
  obtain ⟨result, watched, reached, after, awaited, awaiting⟩ :=
    await_ends (ε := ε) pipeline.recorded submission artifact session
  rw [awaited]
  cases awaiting with
  | uncredentialed => exact .refl _
  | concluded _ polled ended _ =>
      exact ended.keeps_throughout (P := fun later => session.Calls .poll later.unloaded) polled
        (.refl _) (fun _ _ calls => calls.trans (pipeline.probed_calls ..)) fun _ _ calls => calls

theorem staple_calls (artifact : Artifact) (session : Session (World (α × Journal GatewayCall))) :
    session.Calls .staple (pipeline.recorded.staple artifact session).2 := by
  have ends := staple_ends pipeline.recorded artifact session
  generalize pipeline.recorded.staple artifact session = left at ends ⊢
  cases ends with
  | cancelled | unaccepted | missing => exact .refl _
  | called _ _ rewriting => exact rewriting.calls fun _ => rfl

end Pipeline

end Steward
