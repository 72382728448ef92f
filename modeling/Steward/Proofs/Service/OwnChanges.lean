import Steward.Proofs.Files.Making
import Steward.Proofs.Service.Journal

/-!
# What a controller does to the files

Between the calls of its supervisor a controller makes directories, writes and
moves the draft of its descriptor, and removes the draft or the descriptor.
All but the last it does only under a valid name.
-/

namespace Steward

open Relation (ReflTransGen)

variable {α ε : Type}

namespace Controller

/-- The directories that a controller may make: those of the logs that are asked for, that of the
descriptor, and whatever is above them. -/
def Makes (controller : Controller α) (logs : Path → Prop) (path : Path) : Prop :=
  ∃ target, (logs target ∨ controller.descriptorPath.parent? = some target) ∧
    Path.IsAbove target path

/-- One change of the files by a controller. -/
inductive OwnChange (controller : Controller α) (logs : Path → Prop) :
    FileSystem → FileSystem → Prop
  | directory {files : FileSystem} {path : Path} {place : Place}
      (valid : controller.name.isValid = true) (makes : controller.Makes logs path)
      (resolved : files.resolveTarget path = .ok place) (absent : files.find? place = none) :
      OwnChange controller logs files (files.put place .directory)
  | draft {files : FileSystem} {place : Place} {bytes : ByteArray}
      (valid : controller.name.isValid = true)
      (resolved : files.resolve controller.draftPath = .ok place) :
      OwnChange controller logs files (files.put place (.file bytes)).spent
  | move {files : FileSystem} {old new : Place} {entry : Entry}
      (valid : controller.name.isValid = true)
      (source : files.resolveTarget controller.draftPath = .ok old)
      (target : files.resolveTarget controller.descriptorPath = .ok new)
      (found : files.find? old = some entry) :
      OwnChange controller logs files ((files.without old).put new entry)
  | discard {files : FileSystem} {place : Place} (valid : controller.name.isValid = true)
      (resolved : files.resolveTarget controller.draftPath = .ok place) :
      OwnChange controller logs files (files.without place)
  | remove {files : FileSystem} {place : Place}
      (resolved : files.resolveTarget controller.descriptorPath = .ok place) :
      OwnChange controller logs files (files.without place)

/-- A kind of step that the changes of a controller are, apart from the writing of its draft. -/
structure Allows (controller : Controller α) (logs : Path → Prop)
    (step : FileSystem → FileSystem → Prop) : Prop where
  directory {files : FileSystem} {path : Path} {place : Place}
    (valid : controller.name.isValid = true) (makes : controller.Makes logs path)
    (resolved : files.resolveTarget path = .ok place) (absent : files.find? place = none) :
    step files (files.put place .directory)
  move {files : FileSystem} {old new : Place} {entry : Entry}
    (valid : controller.name.isValid = true)
    (source : files.resolveTarget controller.draftPath = .ok old)
    (target : files.resolveTarget controller.descriptorPath = .ok new)
    (found : files.find? old = some entry) :
    step files ((files.without old).put new entry)
  discard {files : FileSystem} {place : Place} (valid : controller.name.isValid = true)
    (resolved : files.resolveTarget controller.draftPath = .ok place) :
    step files (files.without place)
  remove {files : FileSystem} {place : Place}
    (resolved : files.resolveTarget controller.descriptorPath = .ok place) :
    step files (files.without place)

/-- To write the draft in these files is a step. -/
def AllowsDraft (controller : Controller α) (step : FileSystem → FileSystem → Prop)
    (files : FileSystem) : Prop :=
  ∀ place bytes, controller.name.isValid = true → files.resolve controller.draftPath = .ok place →
    step files (files.put place (.file bytes)).spent

/-- Where an operation on these files comes to write the draft, that is a step. -/
def AllowsDraftIn (controller : Controller α) (step : FileSystem → FileSystem → Prop)
    (operation : Operation) (files : FileSystem) : Prop :=
  ∀ request, operation = .command (.install request) →
    files.doesExist controller.descriptorPath = false →
      controller.AllowsDraft step (controller.prepare request files).2

/-- The directory of logs that an operation asks for. -/
def Operation.Wants : Operation → Path → Prop
  | .command (.install request), path => path = request.logDirectory
  | .preview request, path => path = request.logDirectory
  | _, _ => False

variable {controller : Controller α} {logs : Path → Prop} {step : FileSystem → FileSystem → Prop}

theorem allows_ownChange : Allows controller logs (OwnChange controller logs) where
  directory := .directory
  move := .move
  discard := .discard
  remove := .remove

theorem allowsDraft_ownChange (files : FileSystem) :
    controller.AllowsDraft (OwnChange controller logs) files :=
  fun _ _ valid resolved => .draft valid resolved

/-! ## Directories -/

theorem Allows.of_makesDirectory (allows : Allows controller logs step)
    (valid : controller.name.isValid = true) {path : Path} (makes : controller.Makes logs path)
    (files later : FileSystem) (made : FileSystem.MakesDirectory path.IsAbove files later) :
    step files later := by
  obtain ⟨target, wanted, lower⟩ := makes
  cases made with
  | make above resolved absent =>
    exact allows.directory valid ⟨target, wanted, lower.trans above⟩ resolved absent

/-- Making a directory and those above it makes only wanted ones. -/
theorem makeDirectories_steps (allows : Allows controller logs step)
    (valid : controller.name.isValid = true) {path : Path} (makes : controller.Makes logs path) :
    FileAct.Steps step (FileAct.makeDirectories path) :=
  (FileSystem.makeDirectories_makes path).mono (allows.of_makesDirectory valid makes)

/-! ## Building and storing a descriptor -/

theorem resolve_steps (path : Path) (what : String) :
    FileAct.Steps step (InstallRequest.resolve path what) := by
  apply FileAct.Steps.ite (.throw_bind _ _)
  apply FileAct.Steps.get
  intro files
  split <;> exact ReflTransGen.refl

theorem configArguments_steps (config : Option Path) :
    FileAct.Steps step (InstallRequest.configArguments config) := by
  cases config with
  | none => exact .pure _
  | some config =>
    exact .ite (.pure _) (.bind (resolve_steps _ _) fun _ => .pure _)

theorem directoryOf_steps (executable : Path) :
    FileAct.Steps step (InstallRequest.directoryOf executable) := by
  unfold InstallRequest.directoryOf
  split
  · exact .pure _
  · exact .throw _

/-- Building a descriptor makes the directory of its logs and those above it. -/
theorem build_makes (request : InstallRequest) :
    FileAct.Steps (FileSystem.MakesDirectory request.logDirectory.IsAbove) request.build := by
  unfold InstallRequest.build
  apply FileAct.Steps.ite (.throw_bind _ _)
  apply FileAct.Steps.bind (resolve_steps _ _)
  intro executable
  dsimp only
  cases request.workingDirectory
  case' none => refine .bind (directoryOf_steps _) fun directory => ?_
  case' some directory => refine .bind (resolve_steps _ _) fun directory => ?_
  all_goals
    exact .ite (.throw_bind _ _) (.bind (.adapt _ (FileSystem.makeDirectories_makes _)) fun _ =>
      .bind (resolve_steps _ _) fun _ => .bind (configArguments_steps _) fun _ => .pure _)

/-- Nothing is built under a name that is not valid. -/
theorem build_of_invalid {request : InstallRequest} (invalid : request.name.isValid = false) :
    ∃ failure, request.build = throw failure := by
  refine ⟨.invalidDescriptor
    ("service name '" ++ request.name.text ++ "' is not a valid identifier"), ?_⟩
  unfold InstallRequest.build
  rw [invalid]
  rfl

/-- Building a descriptor makes the directory of its logs, and does so only under a valid name. -/
theorem build_steps (allows : Allows controller logs step) (request : InstallRequest)
    (named : request.name = controller.name) (wanted : logs request.logDirectory) :
    FileAct.Steps step request.build := by
  cases valid : request.name.isValid with
  | false =>
    obtain ⟨failure, refused⟩ := build_of_invalid valid
    rw [refused]
    exact .throw _
  | true =>
    rw [named] at valid
    exact (build_makes request).mono (allows.of_makesDirectory valid ⟨_, .inl wanted, .self⟩)

/-- What is put at the descriptor in one move goes by way of the draft. -/
theorem replace_stepsFrom (allows : Allows controller logs step)
    (valid : controller.name.isValid = true) (text : String) {files : FileSystem}
    (drafts : controller.AllowsDraft step files) :
    FileAct.StepsFrom step files
      (FileAct.replace controller.descriptorPath controller.draftPath text) := by
  have drafted {bytes : ByteArray} {written : FileSystem}
      (wrote : files.write controller.draftPath bytes = .ok written) :
      ReflTransGen step files written.spent := by
    obtain ⟨place, resolved, -, rfl⟩ := FileSystem.write_eq_ok_iff.1 wrote
    exact .single (drafts _ _ valid resolved)
  have ended := FileAct.replace_ends controller.descriptorPath controller.draftPath text files
  rw [FileAct.StepsFrom]
  generalize FileAct.replace controller.descriptorPath controller.draftPath text files = left
    at ended ⊢
  cases ended with
  | refused => exact .refl
  | broken _ wrote => exact drafted wrote
  | moved _ wrote moved =>
    obtain ⟨old, new, entry, source, target, found, -, -, -, -, rfl⟩ :=
      FileSystem.of_moveOver moved
    exact (drafted wrote).tail (allows.move valid source target found)
  | @discarded written _ _ wrote =>
    rcases written.spent.discarded_eq controller.draftPath with same | ⟨place, resolved, removed⟩
    · rw [same]
      exact drafted wrote
    · rw [removed]
      exact (drafted wrote).tail (allows.discard valid resolved)

theorem makeParent_steps (allows : Allows controller logs step)
    (valid : controller.name.isValid = true) :
    FileAct.Steps step (Descriptor.makeParent controller.descriptorPath) := by
  unfold Descriptor.makeParent
  cases up : controller.descriptorPath.parent? with
  | none => exact .pure _
  | some parent => exact .adapt _ (makeDirectories_steps allows valid ⟨parent, .inr up, .self⟩)

/-- Storing a descriptor makes its directory, writes the draft and moves it into place. -/
theorem store_stepsFrom (allows : Allows controller logs step)
    (valid : controller.name.isValid = true) (text : String) {files : FileSystem}
    (drafts : controller.AllowsDraft step
      (Descriptor.makeParent controller.descriptorPath files).2) :
    FileAct.StepsFrom step files (Descriptor.store controller.descriptorPath text) := by
  have made := makeParent_steps allows valid files
  rw [FileAct.StepsFrom] at made ⊢
  rw [Descriptor.store_eq, FileAct.bind_apply]
  generalize Descriptor.makeParent controller.descriptorPath files = left at made drafts ⊢
  rcases left with ⟨failure | _, later⟩
  · exact made
  · exact made.trans (replace_stepsFrom allows valid text drafts)

/-! ## Operations -/

section Recorded

variable (controller)

theorem checkToken_steps (operation : String) :
    Act.Steps step (controller.recorded.checkToken operation) :=
  .bind .isCancelled fun _ => .ite (.throw _) (.pure _)

theorem report_steps : Act.Steps step (controller.recorded.report (ε := ε)) :=
  .bind .files fun _ => .bind (.attempt _ _) fun _ => .pure _

theorem status_steps : Act.Steps step (controller.recorded.status (ε := ε)) :=
  .bind controller.report_steps fun _ => .pure _

theorem register_steps : Act.Steps step controller.recorded.register :=
  .attempt _ _

theorem probe_gaps {β : Type} (wanted : Liveness → Option β) (attempt : UInt32)
    (session : Session (World (α × Journal SupervisorCall))) :
    session.Gaps step (session.exchange (controller.recorded.probe wanted attempt)).2 := by
  refine .exchange_bind _ _ (fun answer world => ?_) session
  cases answer with
  | ok liveness => rfl
  | error failure => rfl

theorem awaitRunning_steps : Act.Steps step controller.recorded.awaitRunning := by
  apply Act.Steps.bind (.poll (controller.probe_gaps runningPid) _ _)
  intro outcome
  cases outcome with
  | ready pid => exact .pure _
  | timedOut attempts elapsed => exact .throw _
  | cancelled attempts => exact .throw _

theorem awaitStopped_steps : Act.Steps step controller.recorded.awaitStopped := by
  apply Act.Steps.bind (.poll (controller.probe_gaps stopped) _ _)
  intro outcome
  cases outcome with
  | ready _ => exact .pure _
  | timedOut attempts elapsed => exact .throw _
  | cancelled attempts => exact .throw _

/-- The second half of a launch: the start itself. -/
theorem start_steps_of_loaded :
    Act.Steps step
      (Act.attempt (controller.recorded.supervisor.start controller.name) >>= fun answer =>
        match answer with
        | .ok () => controller.recorded.awaitRunning
        | .error cause => throw (controller.recorded.refused "start" cause)) := by
  apply Act.Steps.bind (.attempt _ _)
  intro answer
  cases answer with
  | ok _ => exact controller.awaitRunning_steps
  | error cause => exact .throw _

theorem launch_steps (known : Except ToolError Liveness) :
    Act.Steps step (controller.recorded.launch known) := by
  match known with
  | .ok .notLoaded =>
      apply Act.Steps.bind controller.register_steps
      intro answer
      cases answer with
      | ok _ => exact controller.start_steps_of_loaded
      | error cause => exact .throw _
  | .ok .loaded => exact controller.start_steps_of_loaded
  | .ok (.running _) => exact controller.start_steps_of_loaded
  | .error _ => exact controller.start_steps_of_loaded

theorem start_steps : Act.Steps step controller.recorded.start := by
  apply Act.Steps.bind (controller.checkToken_steps _)
  intro _
  apply Act.Steps.bind .files
  intro files
  apply Act.Steps.ite (.throw_bind _ _)
  apply Act.Steps.bind (.attempt _ _)
  intro answer
  match answer with
  | .ok (.running _) => exact .pure _
  | .ok .loaded => exact controller.launch_steps _
  | .ok .notLoaded => exact controller.launch_steps _
  | .error _ => exact controller.launch_steps _

theorem halt_steps : Act.Steps step controller.recorded.halt := by
  apply Act.Steps.bind (.attempt _ _)
  intro answer
  cases answer with
  | ok _ => exact controller.awaitStopped_steps
  | error cause => exact .throw _

theorem stop_steps : Act.Steps step controller.recorded.stop := by
  apply Act.Steps.bind (controller.checkToken_steps _)
  intro _
  apply Act.Steps.bind (.attempt _ _)
  intro answer
  cases answer with
  | error cause => exact .throw _
  | ok liveness => exact .ite controller.halt_steps (.pure _)

theorem restart_steps : Act.Steps step controller.recorded.restart :=
  .bind (controller.stop_steps) fun _ => .bind (.pause _ _) fun _ =>
    .ite (.throw_bind _ _) (.bind (controller.start_steps) fun _ => .pure _)

theorem tryStop_steps : Act.Steps step controller.recorded.tryStop := by
  apply Act.Steps.bind (.outcome controller.stop_steps)
  intro result
  cases result with
  | ok _ => exact .pure _
  | error failure => exact .ite (.throw _) (.pure _)

/-- Removing the descriptor is the one change that is made whatever the name. -/
theorem Allows.discarded (allows : Allows controller logs step) (files : FileSystem) :
    ReflTransGen step files (files.discarded controller.descriptorPath) := by
  rcases files.discarded_eq controller.descriptorPath with same | ⟨place, resolved, removed⟩
  · rw [same]
  · rw [removed]
    exact .single (allows.remove resolved)

variable {controller}

theorem clear_steps (allows : Allows controller logs step) :
    FileAct.Steps step (FileAct.clear controller.descriptorPath) := by
  intro files
  rw [FileAct.StepsFrom, FileAct.clear_apply]
  exact allows.discarded controller files

theorem discard_steps (allows : Allows controller logs step) :
    FileAct.Steps (ε := ε) step (FileAct.discard controller.descriptorPath) := by
  intro files
  rw [FileAct.StepsFrom, FileAct.discard_apply]
  exact allows.discarded controller files

theorem unload_steps (allows : Allows controller logs step) :
    Act.Steps step controller.recorded.unload := by
  have cleared : FileAct.Steps step (FileAct.clear controller.descriptorPath) := clear_steps allows
  exact .bind (.attempt _ _) fun _ => .bind (.onFiles (.adapt _ cleared)) fun _ => .pure _

theorem uninstall_steps (allows : Allows controller logs step) :
    Act.Steps step controller.recorded.uninstall :=
  .bind controller.status_steps fun _ => .bind .files fun _ =>
    .ite (.pure _) (.ite (.bind controller.tryStop_steps fun _ => unload_steps allows)
      (unload_steps allows))

/-- What is done with a request once it is known to be for the controller's own service. -/
theorem checkRequest_gaps {β : Type} (request : InstallRequest)
    {session : Session (World (α × Journal SupervisorCall))}
    {next : Unit → Act (World (α × Journal SupervisorCall)) ServiceError β}
    (gaps : request.name = controller.name → session.Gaps step (next () session).2) :
    session.Gaps step ((controller.recorded.checkRequest request >>= next) session).2 := by
  unfold checkRequest
  by_cases own : request.name = controller.name
  · have passed : ¬request.name ≠ controller.recorded.name := fun other => other own
    rw [if_neg passed]
    exact gaps own
  · have refused : request.name ≠ controller.recorded.name := own
    rw [if_pos refused]
    exact .refl session

theorem preview_steps (allows : Allows controller logs step) (request : InstallRequest)
    (wanted : logs request.logDirectory) :
    Act.Steps step (controller.recorded.preview request) := by
  intro session
  apply checkRequest_gaps request
  intro own
  exact (Act.Steps.onFiles (build_steps allows request own wanted)).bind (fun _ => .pure _) session

/-- Nothing is built and written but under a valid name. -/
theorem valid_of_build {request : InstallRequest} {descriptor : Descriptor}
    {files later : FileSystem} (named : request.name = controller.name)
    (built : request.build files = (.ok descriptor, later)) : controller.name.isValid = true := by
  rw [← named]
  cases valid : request.name.isValid with
  | true => rfl
  | false =>
    obtain ⟨failure, refused⟩ := build_of_invalid valid
    rw [refused] at built
    cases built

theorem install_gaps (allows : Allows controller logs step) (request : InstallRequest)
    (wanted : logs request.logDirectory)
    (session : Session (World (α × Journal SupervisorCall)))
    (drafts : controller.AllowsDraftIn step (.command (.install request)) session.world.files) :
    session.Gaps step (controller.recorded.install request session).2 := by
  apply checkRequest_gaps request
  intro own
  rw [Act.bind_apply, Act.files_apply]
  dsimp only
  cases present : session.world.files.doesExist controller.recorded.descriptorPath with
  | true => exact .refl session
  | false =>
    have drafts := drafts request rfl present
    refine .bind (Act.Steps.onFiles (build_steps allows request own wanted) session) ?_
    rintro descriptor _ built
    rw [Act.onFiles_apply] at built
    rcases made : request.build session.world.files with ⟨failure | _, files⟩ <;>
      rw [made] at built <;> cases built
    have valid := valid_of_build own made
    have discarded : FileAct.Steps (ε := ServiceError) step
        (FileAct.discard controller.descriptorPath) := discard_steps allows
    rw [prepare, FileAct.bind_apply, made] at drafts
    refine .bind (.onFiles (store_stepsFrom allows valid _ drafts)) ?_
    intro _ stored _
    apply Act.Steps.bind controller.register_steps
    intro answer
    cases answer with
    | ok _ => exact .pure _
    | error cause => exact .bind (.onFiles discarded) fun _ => .throw _

theorem execute_gaps (allows : Allows controller logs step) (command : Command)
    (wanted : ∀ path, (Operation.command command).Wants path → logs path)
    (session : Session (World (α × Journal SupervisorCall)))
    (drafts : controller.AllowsDraftIn step (.command command) session.world.files) :
    session.Gaps step (controller.recorded.execute command session).2 := by
  cases command with
  | install request =>
    exact .bind (install_gaps allows request (wanted _ rfl) session drafts) fun _ _ _ => .refl _
  | uninstall => exact Act.Steps.bind (uninstall_steps allows) (fun _ => .pure _) session
  | start => exact Act.Steps.bind controller.start_steps (fun _ => .pure _) session
  | stop => exact Act.Steps.bind controller.stop_steps (fun _ => .pure _) session
  | restart => exact Act.Steps.bind controller.restart_steps (fun _ => .pure _) session

theorem perform_gaps (allows : Allows controller logs step) (operation : Operation)
    (wanted : ∀ path, operation.Wants path → logs path)
    (session : Session (World (α × Journal SupervisorCall)))
    (drafts : controller.AllowsDraftIn step operation session.world.files) :
    session.Gaps step (controller.recorded.perform operation session).2 := by
  cases operation with
  | command command =>
    exact .bind (execute_gaps allows command wanted session drafts) fun _ _ _ => .refl _
  | status => exact Act.Steps.bind controller.status_steps (fun _ => .pure _) session
  | report => exact Act.Steps.bind controller.report_steps (fun _ => .pure _) session
  | preview request =>
    exact Act.Steps.bind (preview_steps allows request (wanted _ rfl)) (fun _ => .pure _) session

variable (controller)

/-- Whatever is asked for and in whatever order, between its calls a controller makes none but its
own changes. -/
theorem performAll_gaps (operations : List Operation)
    (wanted : ∀ operation ∈ operations, ∀ path, operation.Wants path → logs path)
    (session : Session (World (α × Journal SupervisorCall))) :
    session.Gaps (OwnChange controller logs)
      (controller.recorded.performAll operations session) := by
  induction operations generalizing session with
  | nil => exact .refl session
  | cons operation rest inductionHypothesis =>
    have first : session.Gaps (OwnChange controller logs)
        (controller.recorded.perform operation session).2 :=
      perform_gaps allows_ownChange operation (wanted operation List.mem_cons_self) session
        fun _ _ _ => allowsDraft_ownChange _
    exact first.trans (inductionHypothesis
      (fun other member => wanted other (List.mem_cons_of_mem operation member)) _)

end Recorded

end Controller

end Steward
