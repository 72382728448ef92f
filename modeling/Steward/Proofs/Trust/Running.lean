import Steward.Proofs.Files.Running
import Steward.Proofs.Session.Running
import Steward.Trust.Pipeline

/-!
# Running steps of the pipeline

A step of the pipeline is run on an artifact and a session.  As for
computations, each primitive is stated as what it makes of them.
-/

namespace Steward

variable {α ε ε' β γ : Type}

/-- A session in which the file or link at a path has been removed if that can be done. -/
def Session.discarding (session : Session (World α)) (path : Path) : Session (World α) :=
  session.withFiles (session.world.files.discarded path)

namespace Work

@[simp]
theorem pure_apply (value : β) (artifact : Artifact) (session : Session (World α)) :
    (pure value : Work α ε β) artifact session = ((.ok value, artifact), session) :=
  rfl

@[simp]
theorem throw_apply (failure : ε) (artifact : Artifact) (session : Session (World α)) :
    (throw failure : Work α ε β) artifact session = ((.error failure, artifact), session) :=
  rfl

theorem bind_apply (work : Work α ε β) (next : β → Work α ε γ) (artifact : Artifact)
    (session : Session (World α)) :
    (work >>= next) artifact session =
      match work artifact session with
      | ((.ok value, reached), after) => next value reached after
      | ((.error failure, reached), after) => ((.error failure, reached), after) := by
  show ExceptT.bindCont next (work artifact session).1.1 (work artifact session).1.2
    (work artifact session).2 = _
  rcases work artifact session with ⟨⟨_ | _, _⟩, _⟩ <;> rfl

/-- A step whose value is only passed on leaves what the step itself leaves. -/
theorem bind_pure_apply (work : Work α ε β) (f : β → γ) (artifact : Artifact)
    (session : Session (World α)) :
    (work >>= fun value => pure (f value)) artifact session =
      (((work artifact session).1.1.map f, (work artifact session).1.2),
        (work artifact session).2) := by
  rw [bind_apply]
  rcases work artifact session with ⟨⟨_ | _, _⟩, _⟩ <;> rfl

@[simp]
theorem get_apply (artifact : Artifact) (session : Session (World α)) :
    (get : Work α ε Artifact) artifact session = ((.ok artifact, artifact), session) :=
  rfl

@[simp]
theorem act_apply (act : Act (World α) ε β) (artifact : Artifact) (session : Session (World α)) :
    Work.act act artifact session = (((act session).1, artifact), (act session).2) :=
  rfl

@[simp]
theorem ofExcept_apply (result : Except ε β) (artifact : Artifact) (session : Session (World α)) :
    Work.ofExcept result artifact session = ((result, artifact), session) :=
  rfl

theorem update_apply (step : Artifact → Except ε Artifact) (artifact : Artifact)
    (session : Session (World α)) :
    Work.update step artifact session =
      match step artifact with
      | .ok reached => ((.ok (), reached), session)
      | .error failure => ((.error failure, artifact), session) := by
  cases reached : step artifact <;> simp only [Work.update, reached]

theorem always_apply (work : Work α ε β) (path : Path) (artifact : Artifact)
    (session : Session (World α)) :
    Work.always work (FileAct.discard path) artifact session =
      ((work artifact session).1, (work artifact session).2.discarding path) := by
  simp only [Work.always, Act.onFiles_apply, FileAct.discard_apply]
  rfl

theorem onFailure_apply (work : Work α ε β) (path : Path) (artifact : Artifact)
    (session : Session (World α)) :
    Work.onFailure work (FileAct.discard path) artifact session =
      match work artifact session with
      | ((.error failure, reached), after) =>
        ((.error failure, reached), after.discarding path)
      | ((.ok value, reached), after) => ((.ok value, reached), after) := by
  simp only [Work.onFailure, Act.onFiles_apply, FileAct.discard_apply]
  rcases work artifact session with ⟨⟨_ | _, _⟩, _⟩ <;> rfl

@[simp]
theorem inStage_apply (stage : Stage) (work : Work α TrustError β) (artifact : Artifact)
    (session : Session (World α)) :
    Pipeline.inStage stage work artifact session =
      (((work artifact session).1.1.mapError (fun failure => (stage, failure)),
        (work artifact session).1.2), (work artifact session).2) :=
  rfl

end Work

namespace Pipeline

@[simp]
theorem checkToken_apply (stage : Stage) (session : Session (World α)) :
    checkToken stage session =
      (match session.isCancelled with
        | true => .error (.cancelled stage)
        | false => .ok (), session) := by
  simp only [checkToken, Act.bind_apply, Act.isCancelled_apply]
  cases session.isCancelled <;> rfl

@[simp]
theorem checkBinary_apply (artifact : Artifact) (session : Session (World α)) :
    checkBinary artifact session =
      (match session.world.files.isFile artifact.path with
        | true => .ok ()
        | false => .error (.notFound artifact.path), session) := by
  simp only [checkBinary, Act.bind_apply, Act.files_apply]
  cases session.world.files.isFile artifact.path <;> rfl

@[simp]
theorem refresh_apply (artifact : Artifact) (session : Session (World α)) :
    refresh artifact session =
      match artifact.refresh session.world.files with
      | .ok reached => ((.ok (), reached), session)
      | .error failure => ((.error failure, artifact), session) := by
  simp only [refresh, Work.bind_apply, Work.act_apply, Act.files_apply, Work.update_apply]
  cases artifact.refresh session.world.files <;> rfl

/-- Claiming the path of the archive leaves nothing there, or fails. -/
theorem claim_apply (archive : Path) (files : FileSystem) :
    claim archive files =
      (match files.remove archive with
        | .ok _ => .ok ()
        | .error failure => if failure = .notFound then .ok () else .error (.io archive failure),
        files.discarded archive) := by
  simp only [claim, FileAct.adapt_apply, FileAct.clear_apply]
  cases files.remove archive with
  | ok later => rfl
  | error failure =>
    dsimp only
    split <;> rfl

@[simp]
theorem ask_apply (stage : Stage) (request : Call (World α) ToolError β)
    (session : Session (World α)) :
    ask stage request session =
      ((session.exchange request).1.mapError (TrustError.gateway stage),
        (session.exchange request).2) := by
  show session.exchange (Except.mapError (TrustError.gateway stage) <$> request) = _
  simp only [Session.exchange, Exchange.map_apply]

end Pipeline

end Steward
