import Steward.Proofs.Files.Replacing
import Steward.Proofs.Service.Confirmation
import Steward.Proofs.Service.OwnChanges

/-!
# A service is uninstalled

What an uninstall asks of the supervisor follows from one query: a running service is stopped first,
a service of which nothing is left is not touched, and any other is unloaded.  No answer and no
failed stop keeps the descriptor from being removed, unless the stop crashes; that is the one step
whose failure is a failure of the operation, and the one change that the operation makes to the
files.
-/

namespace Steward

variable {α β γ κ : Type}

/-- One course and then another, whatever comes of the first unless it crashes. -/
inductive Course.Then (first : Course α κ ServiceError γ) (next : Course α κ ServiceError β) :
    Course α κ ServiceError β
  | both {session middle final : Session (World α)} {calls more : List κ}
      {outcome : Except ServiceError γ} {result : Except ServiceError β}
      (going : outcome ≠ .error .crashed) (earlier : first session calls outcome middle)
      (later : next middle more result final) : Then first next session (calls ++ more) result final
  | crashed {session final : Session (World α)} {calls : List κ}
      (earlier : first session calls (.error .crashed) final) :
      Then first next session calls (.error .crashed) final

namespace Controller

variable (controller : Controller α)

/-! ## Courses -/

/-- The descriptor is removed; that there is none is as good. -/
inductive Unlinks : Course α SupervisorCall ServiceError Transition
  | removed {session : Session (World α)} {later : FileSystem}
      (unlinked : session.world.files.remove controller.descriptorPath = .ok later) :
      Unlinks session [] (.ok .completed) (session.withFiles later)
  | missing {session : Session (World α)}
      (absent : session.world.files.remove controller.descriptorPath = .error .notFound) :
      Unlinks session [] (.ok .completed) session
  | refused {session : Session (World α)} {cause : IoError}
      (refused : session.world.files.remove controller.descriptorPath = .error cause)
      (other : cause ≠ .notFound) :
      Unlinks session [] (.error (.io controller.descriptorPath cause)) session

/-- The service is unloaded, and whether that succeeds or not its descriptor is removed. -/
def Unloads : Course α SupervisorCall ServiceError Transition :=
  Course.Asks (.deregister controller.name) (controller.supervisor.deregister controller.name)
    fun _ => controller.Unlinks

/-- The discipline of an uninstall: what it does follows from one query and from whether there is a
descriptor. -/
def Uninstalls : Course α SupervisorCall ServiceError Transition :=
  Course.Looks fun before =>
    Course.Asks (.query controller.name) (controller.supervisor.query controller.name) fun
      | .ok (.running _) => Course.Then controller.Stops controller.Unloads
      | .ok .loaded => controller.Unloads
      | .ok .notLoaded => Course.Looks fun after =>
        if before.doesExist controller.descriptorPath || after.doesExist controller.descriptorPath
        then controller.Unloads
        else Course.Ends (.ok .alreadyInDesiredState)
      | .error _ => Course.Looks fun after =>
        if after.doesExist controller.descriptorPath then controller.Unloads
        else Course.Ends (.ok .alreadyInDesiredState)

/-! ## The course of an uninstall -/

/-- The removal of the descriptor, and the answer of the operation. -/
def unlink : Act (World α) ServiceError Transition := do
  Act.onFiles (ExceptT.adapt (ServiceError.io controller.descriptorPath)
    (FileAct.clear controller.descriptorPath))
  return .completed

theorem unlink_unlinks (session : Session (World α)) :
    controller.Unlinks session [] (controller.unlink session).1 (controller.unlink session).2 := by
  rw [unlink, Act.bind_apply, Act.onFiles_apply, FileAct.adapt_apply, FileAct.clear_apply,
    FileSystem.discarded]
  cases removed : session.world.files.remove controller.descriptorPath with
  | ok later => exact .removed removed
  | error cause =>
    by_cases missing : cause = .notFound
    · subst missing
      exact .missing removed
    · simp only [if_neg missing]
      exact .refused removed missing

theorem recorded_descriptorPath :
    controller.recorded.descriptorPath = controller.descriptorPath :=
  rfl

theorem unlink_refines :
    Act.Refines World.unrecorded controller.recorded.unlink controller.unlink :=
  .bind (.onFiles _) fun _ => .pure _

theorem unlink_takes : Act.Takes controller.recorded.unlink controller.Unlinks := by
  intro session
  have plain := controller.unlink_unlinks (session.through World.unrecorded)
  rw [controller.unlink_refines session] at plain
  refine ⟨[], ?_, plain⟩
  rw [unlink, Act.bind_pure_apply, List.append_nil]
  rfl

theorem unload_eq :
    controller.unload =
      Act.attempt (controller.supervisor.deregister controller.name) >>= fun _ =>
        controller.unlink :=
  rfl

theorem unload_takes : Act.Takes controller.recorded.unload controller.Unloads := by
  rw [unload_eq]
  exact .attempt_bind _ _ fun _ => controller.unlink_takes

/-- What comes of a stop does not keep anything from being done after it, unless it crashes. -/
theorem tryStop_bind_takes {next : Act (World (α × Journal SupervisorCall)) ServiceError β}
    {course : Course α SupervisorCall ServiceError β} (onward : Act.Takes next course) :
    Act.Takes (controller.recorded.tryStop >>= fun _ => next)
      (Course.Then controller.Stops course) := by
  intro session
  obtain ⟨calls, grown, taken⟩ := controller.stop_takes session
  rw [Act.bind_apply, tryStop, Act.bind_apply, Act.outcome_apply]
  generalize controller.recorded.stop session = left at grown taken ⊢
  obtain ⟨outcome, middle⟩ := left
  dsimp only at grown taken ⊢
  obtain ⟨more, grownMore, takenMore⟩ := onward middle
  have grownAll : (next middle).2.calls = session.calls ++ (calls ++ more) := by
    rw [grownMore, grown, List.append_assoc]
  cases outcome with
  | ok transition =>
    have going : (Except.ok transition : Except ServiceError Transition) ≠ .error .crashed := nofun
    exact ⟨calls ++ more, grownAll, .both going taken takenMore⟩
  | error failure =>
    by_cases crash : failure = .crashed
    · subst crash
      exact ⟨calls, grown, .crashed taken⟩
    · have going : (Except.error failure : Except ServiceError Transition) ≠ .error .crashed :=
        fun same => crash (Except.error.inj same)
      simp only [if_neg crash, Act.pure_apply]
      exact ⟨calls ++ more, grownAll, .both going taken takenMore⟩

theorem uninstall_eq :
    controller.uninstall = (do
      let before ← Act.files
      let answer ← Act.attempt (controller.supervisor.query controller.name)
      let state := stateOf answer (before.doesExist controller.descriptorPath)
      let after ← Act.files
      if state = .notInstalled && !after.doesExist controller.descriptorPath then
        return .alreadyInDesiredState
      if state = .running then controller.tryStop
      controller.unload) := by
  simp only [uninstall, status, report, bind_assoc, pure_bind]

theorem uninstall_takes : Act.Takes controller.recorded.uninstall controller.Uninstalls := by
  rw [uninstall_eq]
  apply Act.Takes.files_bind
  intro before
  apply Act.Takes.attempt_bind
  intro answer
  match answer with
  | .ok (.running _) =>
    exact .files_bind fun _ => controller.tryStop_bind_takes controller.unload_takes
  | .ok .loaded => exact controller.unload_takes
  | .ok .notLoaded =>
    refine .files_bind fun after => ?_
    rw [recorded_descriptorPath]
    cases before.doesExist controller.descriptorPath with
    | true => exact controller.unload_takes
    | false =>
      cases after.doesExist controller.descriptorPath with
      | true => exact controller.unload_takes
      | false => exact .pure _
  | .error cause =>
    refine .files_bind fun after => ?_
    rw [recorded_descriptorPath]
    cases after.doesExist controller.descriptorPath with
    | true => exact controller.unload_takes
    | false => exact .pure _

/-! ## Results and files -/

/-- What an uninstall leaves of the files that its calls have left.  It is done when there is no
descriptor: none that is to be removed, or none any more, or none at all.  It fails when the removal
is refused, or crashes before it comes to that, and then nothing has changed. -/
inductive Leaves (descriptor : Path) (reached : FileSystem) :
    Except ServiceError Transition → FileSystem → Prop
  | nothing (absent : reached.doesExist descriptor = false) :
      Leaves descriptor reached (.ok .alreadyInDesiredState) reached
  | removed {place : Place} (resolved : reached.resolveTarget descriptor = .ok place)
      (absent : (reached.without place).doesExist descriptor = false) :
      Leaves descriptor reached (.ok .completed) (reached.without place)
  | missing (missing : reached.remove descriptor = .error .notFound)
      (absent : reached.doesExist descriptor = false) :
      Leaves descriptor reached (.ok .completed) reached
  | refused {cause : IoError} (refused : reached.remove descriptor = .error cause)
      (other : cause ≠ .notFound) :
      Leaves descriptor reached (.error (.io descriptor cause)) reached
  | crashed : Leaves descriptor reached (.error .crashed) reached

variable {controller} in
theorem Unlinks.leaves {session final : Session (World α)} {calls : List SupervisorCall}
    {result : Except ServiceError Transition}
    (unlinks : controller.Unlinks session calls result final) :
    Leaves controller.descriptorPath session.world.files result final.world.files := by
  cases unlinks with
  | removed unlinked =>
    obtain ⟨place, entry, resolved, -, -, -, -, rfl⟩ := FileSystem.remove_eq_ok_iff.1 unlinked
    exact .removed resolved
      (FileSystem.doesExist_of_isVacant (FileSystem.isVacant_of_remove unlinked))
  | missing absent =>
    exact .missing absent (FileSystem.doesExist_of_isVacant
      (FileSystem.isVacant_of_resolveTarget fun _ => FileSystem.absent_of_remove_notFound absent))
  | refused refused other => exact .refused refused other

/-- A stop that is tried changes nothing in between its calls. -/
theorem tryStop_reaches (session : Session (World (α × Journal SupervisorCall))) :
    ∃ reached, session.Gaps (fun _ _ => False) reached ∧
      (controller.recorded.tryStop session = (.error .crashed, reached) ∨
        controller.recorded.tryStop session = (.ok (), reached)) := by
  have stopped : session.Gaps (fun _ _ => False) (controller.recorded.stop session).2 :=
    controller.stop_steps session
  refine ⟨_, stopped, ?_⟩
  rw [tryStop, Act.bind_apply, Act.outcome_apply]
  dsimp only
  cases (controller.recorded.stop session).1 with
  | ok _ => exact .inr rfl
  | error failure =>
    by_cases crash : failure = .crashed
    · simp [crash]
    · simp [crash]

/-- Until it unlinks the descriptor an uninstall changes nothing, and it comes to that unless it
finds nothing to do or crashes. -/
theorem uninstall_reaches (session : Session (World (α × Journal SupervisorCall))) :
    ∃ reached, session.Gaps (fun _ _ => False) reached ∧
      (controller.recorded.uninstall session = (.ok .alreadyInDesiredState, reached) ∧
          reached.world.files.doesExist controller.descriptorPath = false ∨
        controller.recorded.uninstall session = (.error .crashed, reached) ∨
        controller.recorded.uninstall session = controller.recorded.unlink reached) := by
  have unloaded (before : Session (World (α × Journal SupervisorCall))) :
      ∃ reached, before.Gaps (fun _ _ => False) reached ∧
        controller.recorded.unload before = controller.recorded.unlink reached :=
    ⟨_, .exchange _ _ before, rfl⟩
  rw [uninstall_eq, Act.bind_apply, Act.files_apply]
  dsimp only
  rw [Act.bind_apply, Act.attempt_apply]
  have asked : session.Gaps (fun _ _ => False)
      (session.exchange (controller.recorded.supervisor.query controller.recorded.name)).2 :=
    .exchange _ _ session
  generalize session.exchange (controller.recorded.supervisor.query controller.recorded.name) =
    left at asked ⊢
  obtain ⟨answer, seen⟩ := left
  dsimp only at asked ⊢
  rw [Act.bind_apply, Act.files_apply]
  dsimp only
  split
  · rename_i nowhere
    obtain ⟨-, absent⟩ := Bool.and_eq_true_iff.1 nowhere
    rw [Bool.not_eq_true'] at absent
    exact ⟨seen, asked, .inl ⟨rfl, absent⟩⟩
  · split
    · obtain ⟨halted, gaps, crashed | stopped⟩ := controller.tryStop_reaches seen
      · rw [Act.bind_apply, crashed]
        exact ⟨halted, asked.trans gaps, .inr (.inl rfl)⟩
      · rw [Act.bind_apply, stopped]
        obtain ⟨reached, more, same⟩ := unloaded halted
        exact ⟨reached, asked.trans (gaps.trans more), .inr (.inr same)⟩
    · obtain ⟨reached, gaps, same⟩ := unloaded seen
      exact ⟨reached, asked.trans gaps, .inr (.inr same)⟩

/-- Whatever the supervisor answers and whenever the token fires, an uninstall keeps its discipline;
apart from its calls nothing happens to the files but that the descriptor is removed; it is done
exactly when there is no descriptor, and fails only when the descriptor cannot be removed.  It does
not get that far only where its stop crashes. -/
theorem uninstall_tears_down (session : Session (World α)) :
    controller.Uninstalls session (controller.recorded.uninstall session.recording).2.calls
        (controller.uninstall session).1 (controller.uninstall session).2 ∧
      ∃ reached,
        Journal.Explains session.world.files
          (controller.recorded.uninstall session.recording).2.journal reached ∧
        Leaves controller.descriptorPath reached (controller.uninstall session).1
          (controller.uninstall session).2.world.files := by
  have same := controller.uninstall_refines session.recording
  rw [Session.recording_through] at same
  constructor
  · obtain ⟨calls, grown, taken⟩ := controller.uninstall_takes session.recording
    rw [Session.recording_through] at taken
    rw [grown, same]
    exact taken
  · obtain ⟨reached, gaps, ended⟩ := controller.uninstall_reaches session.recording
    refine ⟨reached.world.files, ?_, ?_⟩
    · have journal : (controller.recorded.uninstall session.recording).2.journal =
          reached.journal := by
        rcases ended with ⟨nothing, -⟩ | crashed | unlinked
        · rw [nothing]
        · rw [crashed]
        · rw [unlinked, unlink, Act.bind_pure_apply]
          rfl
      rw [journal]
      exact ⟨gaps.of_recording⟩
    · rw [same]
      rcases ended with ⟨nothing, absent⟩ | crashed | unlinked
      · rw [nothing]
        exact .nothing absent
      · rw [crashed]
        exact .crashed
      · rw [unlinked]
        exact (controller.recorded.unlink_unlinks reached).leaves

end Controller

end Steward
