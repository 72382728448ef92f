import Steward.Proofs.Service.Lifecycle
import Steward.Proofs.Service.OwnChanges
import Steward.Proofs.Service.PropertyList
import Steward.Proofs.Service.Storage

/-!
# Previews

A preview builds a descriptor that is not written, but the directory for the
logs that it makes on the way stays.  When the same request is built once
more, that directory is there, and making it again changes nothing.  What is
looked up after the directory is made is found as it was found before.  The
program and the directory to start in are looked up earlier, so a path of
theirs that led to nothing at first may lead through the new directory the
second time; only where it does not, an installation writes what the preview
has shown.
-/

namespace Steward

variable {α : Type}

namespace InstallRequest

variable {request : InstallRequest} {path : Path} {what : String}
  {files middle later : FileSystem} {descriptor other : Descriptor}

/-! ## Looking up a path twice -/

/-- A path that is resolved is the canonical one, or leads to nothing and stays as it is. -/
def Finds (path : Path) (files : FileSystem) (found : Path) : Prop :=
  files.canonical path = .ok found ∨ files.canonical path = .error .notFound ∧ found = path

theorem resolve_ensures (path : Path) (what : String) (files : FileSystem) :
    FileAct.EnsuresFrom (fun found later => later = files ∧ Finds path files found) files
      (resolve path what) := by
  unfold resolve
  by_cases isAbsolute : path.isAbsolute = true
  · rw [if_neg (by simp [isAbsolute])]
    apply FileAct.EnsuresFrom.get
    split
    · rename_i named
      exact .pure ⟨rfl, .inl named⟩
    · rename_i missing
      exact .pure ⟨rfl, .inr ⟨missing, rfl⟩⟩
    · exact .throw _
  · rw [if_pos (by simp [isAbsolute])]
    exact .throw _

/-! ## The two halves of building -/

/-- The directory to start in: the given one, or that of the program. -/
def startingIn (request : InstallRequest) (executable : Path) : FileAct ServiceError Path :=
  match request.workingDirectory with
  | some directory => resolve directory "working directory"
  | none => directoryOf executable

/-- What is looked up once the directory for the logs is there. -/
def describe (request : InstallRequest) (executable workingDirectory : Path) :
    FileAct ServiceError Descriptor := do
  let logs ← resolve request.logDirectory "log directory"
  let configuration ← configArguments request.config
  return {
    name := request.name
    executable := executable
    arguments := executable.text :: configuration
    workingDirectory := workingDirectory
    stdoutPath := Layout.stdoutLog logs
    stderrPath := Layout.stderrLog logs
    restart := request.restart
    user := request.user.filter (fun user => !user.isEmpty) }

/-- What is done once the program and the directory to start in are found. -/
def finish (request : InstallRequest) (executable workingDirectory : Path) :
    FileAct ServiceError Descriptor := do
  if !request.logDirectory.isAbsolute then
    throw (.invalidDescriptor ("log directory must be absolute: " ++ request.logDirectory.text))
  ExceptT.adapt (ServiceError.io request.logDirectory)
    (FileAct.makeDirectories request.logDirectory)
  request.describe executable workingDirectory

theorem build_eq (valid : request.name.isValid = true) :
    request.build =
      (resolve request.executable "executable" >>= fun executable =>
        request.startingIn executable >>= request.finish executable) := by
  unfold build startingIn
  rw [if_neg (by simp [valid])]
  cases request.workingDirectory with
  | none => rfl
  | some directory => rfl

theorem startingIn_ensures (request : InstallRequest) (executable : Path) (files : FileSystem) :
    FileAct.EnsuresFrom (fun found later => later = files ∧
      match request.workingDirectory with
      | some directory => Finds directory files found
      | none => executable.parent? = some found) files
      (request.startingIn executable) := by
  unfold startingIn
  cases request.workingDirectory with
  | none =>
    unfold directoryOf
    cases executable.parent? with
    | none => exact .throw _
    | some parent => exact .pure ⟨rfl, rfl⟩
  | some directory => exact resolve_ensures directory "working directory" files

/-- What is built goes through both halves. -/
theorem of_build (built : request.build files = (.ok descriptor, later)) :
    ∃ executable workingDirectory,
      resolve request.executable "executable" files = (.ok executable, files) ∧
      request.startingIn executable files = (.ok workingDirectory, files) ∧
      request.finish executable workingDirectory files = (.ok descriptor, later) := by
  cases valid : request.name.isValid with
  | false =>
    obtain ⟨failure, refused⟩ := Controller.build_of_invalid valid
    rw [refused] at built
    cases built
  | true =>
    rw [build_eq valid] at built
    obtain ⟨executable, _, resolved, rest⟩ := FileAct.bind_eq_ok_iff.1 built
    obtain ⟨rfl, -⟩ := resolve_ensures _ _ _ _ _ resolved
    obtain ⟨workingDirectory, _, started, finished⟩ := FileAct.bind_eq_ok_iff.1 rest
    obtain ⟨rfl, -⟩ := startingIn_ensures _ _ _ _ _ started
    exact ⟨executable, workingDirectory, resolved, started, finished⟩

theorem configArguments_ensures (config : Option Path) (files : FileSystem) :
    FileAct.EnsuresFrom (fun _ later => later = files) files (configArguments config) := by
  cases config with
  | none => exact .pure rfl
  | some config =>
    unfold configArguments
    dsimp only
    by_cases blank : config.text.isEmpty = true
    · rw [if_pos blank]
      exact .pure rfl
    · rw [if_neg blank]
      apply FileAct.EnsuresFrom.bind
      intro resolved middle found
      obtain ⟨rfl, -⟩ := resolve_ensures _ _ _ _ _ found
      exact .pure rfl

theorem describe_ensures (request : InstallRequest) (executable workingDirectory : Path)
    (files : FileSystem) :
    FileAct.EnsuresFrom (fun _ later => later = files) files
      (request.describe executable workingDirectory) := by
  apply FileAct.EnsuresFrom.bind
  intro logs middle found
  obtain ⟨rfl, -⟩ := resolve_ensures _ _ _ _ _ found
  apply FileAct.EnsuresFrom.bind
  intro configuration later configured
  obtain rfl := configArguments_ensures _ _ _ _ configured
  exact .pure rfl

/-- Once the directory for the logs is there, the second half changes nothing, however often it is
done. -/
theorem finish_again {executable workingDirectory : Path}
    (finished : request.finish executable workingDirectory files = (.ok descriptor, later)) :
    request.finish executable workingDirectory later = (.ok descriptor, later) := by
  unfold finish at finished ⊢
  by_cases isAbsolute : request.logDirectory.isAbsolute = true
  · rw [if_neg (by simp [isAbsolute])] at finished ⊢
    obtain ⟨_, middle, made, described⟩ := FileAct.bind_eq_ok_iff.1 finished
    have written : request.logDirectory.text ≠ "" := by
      intro blank
      simp [Path.isAbsolute, blank] at isAbsolute
    have directory : middle.isDirectory request.logDirectory = true :=
      FileSystem.isDirectory_of_makeDirectories written (FileAct.adapt_eq_ok_iff.1 made)
    obtain rfl := describe_ensures _ _ _ _ _ _ described
    refine FileAct.bind_eq_ok_iff.2 ⟨(), later, ?_, described⟩
    exact FileAct.adapt_eq_ok_iff.2 (FileSystem.makeDirectories_of_isDirectory directory)
  · rw [if_pos (by simp [isAbsolute])] at finished
    cases finished

/-! ## Building twice -/

/-- The paths that are looked up before the directory for the logs is made. -/
def early (request : InstallRequest) : List Path :=
  request.executable :: request.workingDirectory.toList

/-- No path that is looked up early has come to lead to something by another name: what led to
nothing before leads to nothing still, or to what it names itself. -/
def IsSettled (request : InstallRequest) (before after : FileSystem) : Prop :=
  ∀ path ∈ request.early, before.canonical path = .error .notFound →
    ∀ resolved, after.canonical path = .ok resolved → resolved = path

theorem Finds.again {made : Path → Prop} {found second : Path}
    (grown : FileSystem.Grown made files later)
    (settled : files.canonical path = .error .notFound →
      ∀ resolved, later.canonical path = .ok resolved → resolved = path)
    (finds : Finds path files found) (again : Finds path later second) : second = found := by
  rcases finds with named | ⟨missing, rfl⟩
  · rcases again with same | ⟨missing, -⟩
    · exact Except.ok.inj (same.symm.trans (grown.canonical named))
    · cases missing.symm.trans (grown.canonical named)
  · rcases again with other | ⟨-, rfl⟩
    · exact settled missing second other
    · rfl

/-- Building only makes directories. -/
theorem grown_of_build (built : request.build files = (.ok descriptor, later)) :
    FileSystem.Grown request.logDirectory.IsAbove files later := by
  have steps := Controller.build_makes request files
  rw [FileAct.StepsFrom, built] at steps
  exact .of_steps steps

theorem startingIn_again {made : Path → Prop} {executable found second : Path}
    (grown : FileSystem.Grown made files later) (settled : request.IsSettled files later)
    (first : request.startingIn executable files = (.ok found, files))
    (again : request.startingIn executable later = (.ok second, later)) : second = found := by
  have before := (startingIn_ensures _ _ _ _ _ first).2
  have after := (startingIn_ensures _ _ _ _ _ again).2
  cases given : request.workingDirectory with
  | none =>
    rw [given] at before after
    exact Option.some.inj (after.symm.trans before)
  | some directory =>
    rw [given] at before after
    exact before.again grown (settled directory (by simp [early, given])) after

/-- What is built twice in a row is the same, and the second time nothing is changed. -/
theorem build_again (first : request.build files = (.ok descriptor, middle))
    (second : request.build middle = (.ok other, later))
    (settled : request.IsSettled files middle) : other = descriptor ∧ later = middle := by
  have grown := grown_of_build first
  obtain ⟨executable, workingDirectory, resolved, started, finished⟩ := of_build first
  obtain ⟨executable', workingDirectory', resolved', started', finished'⟩ := of_build second
  have finds := (resolve_ensures _ _ _ _ _ resolved).2
  have finds' := (resolve_ensures _ _ _ _ _ resolved').2
  obtain rfl : executable' = executable :=
    finds.again grown (settled _ List.mem_cons_self) finds'
  obtain rfl : workingDirectory' = workingDirectory :=
    startingIn_again grown settled started started'
  cases (finish_again finished).symm.trans finished'
  exact ⟨rfl, rfl⟩

end InstallRequest

namespace Controller

variable {controller : Controller α} {request : InstallRequest} {descriptor : Descriptor}
  {session : Session (World α)} {files : FileSystem} {path : Path}

/-! ## Previews and installations -/

/-- Nothing succeeds for a request that is for another service. -/
theorem own_of_checkRequest {β : Type} {next : Unit → Act (World α) ServiceError β} {value : β}
    (done : ((controller.checkRequest request >>= next) session).1 = .ok value) :
    request.name = controller.name := by
  by_cases own : request.name = controller.name
  · exact own
  · rw [Act.bind_apply, checkRequest, if_pos own] at done
    cases done

theorem checkRequest_bind {β : Type} (own : request.name = controller.name)
    (next : Unit → Act (World α) ServiceError β) (session : Session (World α)) :
    (controller.checkRequest request >>= next) session = next () session := by
  rw [Act.bind_apply, checkRequest, if_neg (not_not_intro own)]
  rfl

/-- What an installation does with the descriptor it has built. -/
def deploy (controller : Controller α) (descriptor : Descriptor) :
    Act (World α) ServiceError Path := do
  Act.onFiles (Descriptor.store controller.descriptorPath
    (descriptor.render controller.supervisor.dialect))
  match ← controller.register with
  | .ok () => return controller.descriptorPath
  | .error cause =>
    Act.onFiles (FileAct.discard controller.descriptorPath)
    throw (controller.refused "register" cause)

/-- An installation that builds a descriptor deploys it. -/
theorem install_eq_deploy (own : request.name = controller.name)
    (absent : session.world.files.doesExist controller.descriptorPath = false)
    (built : request.build session.world.files = (.ok descriptor, files)) :
    controller.install request session =
      controller.deploy descriptor (session.withFiles files) := by
  rw [install, checkRequest_bind own, Act.bind_apply, Act.files_apply]
  dsimp only
  rw [if_neg (by simp [absent]), Act.bind_apply, Act.onFiles_apply, built]
  rfl

/-- An installation that succeeds has found no descriptor and has built one. -/
theorem of_install (installed : (controller.install request session).1 = .ok path) :
    request.name = controller.name ∧
      session.world.files.doesExist controller.descriptorPath = false ∧
      ∃ descriptor files, request.build session.world.files = (.ok descriptor, files) := by
  have own : request.name = controller.name := own_of_checkRequest installed
  rw [install, checkRequest_bind own, Act.bind_apply, Act.files_apply] at installed
  dsimp only at installed
  cases present : session.world.files.doesExist controller.descriptorPath with
  | true =>
    rw [if_pos present] at installed
    cases installed
  | false =>
    rw [if_neg (by simp [present]), Act.bind_apply, Act.onFiles_apply] at installed
    rcases built : request.build session.world.files with ⟨failure | descriptor, files⟩
    · rw [built] at installed
      cases installed
    · exact ⟨own, rfl, descriptor, files, rfl⟩

/-- A preview that succeeds shows the descriptor it has built and keeps what building it made. -/
theorem of_preview {text : String} (previewed : (controller.preview request session).1 = .ok text) :
    ∃ descriptor, request.build session.world.files =
        (.ok descriptor, (controller.preview request session).2.world.files) ∧
      text = descriptor.render controller.supervisor.dialect := by
  have own : request.name = controller.name := own_of_checkRequest previewed
  rw [preview, checkRequest_bind own, Act.bind_apply, Act.onFiles_apply] at previewed ⊢
  rcases built : request.build session.world.files with ⟨failure | descriptor, files⟩
  · rw [built] at previewed
    cases previewed
  · rw [built] at previewed
    cases previewed
    exact ⟨descriptor, rfl, rfl⟩

/-- A descriptor that is deployed is stored, and then the supervisor is told. -/
theorem of_deploy (deployed : (controller.deploy descriptor session).1 = .ok path) :
    path = controller.descriptorPath ∧ ∃ stored,
      Descriptor.store controller.descriptorPath (descriptor.render controller.supervisor.dialect)
          session.world.files = (.ok (), stored) ∧
        (controller.deploy descriptor session).2.world =
          (controller.supervisor.register controller.name controller.descriptorPath
            { session.world with files := stored }).world := by
  rw [deploy, Act.bind_apply, Act.onFiles_apply] at deployed ⊢
  rcases stores : Descriptor.store controller.descriptorPath
    (descriptor.render controller.supervisor.dialect) session.world.files with
    ⟨failure | _, stored⟩
  · rw [stores] at deployed
    cases deployed
  · rw [stores] at deployed
    dsimp only at deployed ⊢
    rw [Act.bind_apply, register, Act.attempt_apply] at deployed ⊢
    dsimp only at deployed ⊢
    cases answered : ((session.withFiles stored).exchange
      (controller.supervisor.register controller.name controller.descriptorPath)).1 with
    | error cause =>
      rw [answered] at deployed
      dsimp only at deployed
      rw [Act.bind_apply, Act.onFiles_apply, FileAct.discard_apply] at deployed
      cases deployed
    | ok _ =>
      rw [answered] at deployed
      cases deployed
      exact ⟨rfl, stored, rfl, rfl⟩

/-- An installation that succeeds leaves the descriptor that it has built, if no links stand in the
way and the supervisor leaves the descriptor alone. -/
theorem install_writes (installed : (controller.install request session).1 = .ok path)
    (direct : controller.WritesInPlace (.install request) session)
    (aloof : Exchange.LeavesAlone controller.descriptorPath
      (controller.supervisor.register controller.name controller.descriptorPath)) :
    ∃ descriptor files, request.build session.world.files = (.ok descriptor, files) ∧
      path = controller.descriptorPath ∧
      (controller.install request session).2.world.files.lookupNoFollow path =
        .ok (.file (descriptor.render controller.supervisor.dialect).toUTF8) := by
  obtain ⟨own, absent, descriptor, files, built⟩ := of_install installed
  have deploys : controller.install request session =
      controller.deploy descriptor (session.withFiles files) :=
    install_eq_deploy own absent built
  rw [deploys] at installed ⊢
  obtain ⟨rfl, stored, stores, registered⟩ := of_deploy installed
  obtain ⟨bare, apart⟩ := direct request rfl absent
  rw [prepare, FileAct.bind_apply, built] at bare apart
  have told := Descriptor.lookupNoFollow_of_store stores bare apart
  have kept := aloof { (session.withFiles files).world with files := stored }
  rw [← registered, told] at kept
  exact ⟨descriptor, files, built, rfl, toOption_eq_some_iff.1 kept⟩

/-- An installation that succeeds is done alike from files in which the descriptor is not there
either and from which the same is built. -/
theorem install_eq_of_build {before : FileSystem} (own : request.name = controller.name)
    (absent : session.world.files.doesExist controller.descriptorPath = false)
    (vacant : before.doesExist controller.descriptorPath = false)
    (built : request.build session.world.files = (.ok descriptor, files))
    (same : request.build before = (.ok descriptor, files)) :
    controller.install request (session.withFiles before) = controller.install request session := by
  rw [install_eq_deploy own absent built]
  exact install_eq_deploy own vacant same

/-- If the program and the directory to start in are found by no other name once the preview has
made the directory for the logs, an installation from there writes what the preview has shown, and
does all that it would have done without the preview. -/
theorem install_after_preview (controller : Controller α) (request : InstallRequest)
    (session later : Session (World α)) (text : String) (path : Path)
    (previewed : (controller.preview request session).1 = .ok text)
    (untouched : later.world.files = (controller.preview request session).2.world.files)
    (installed : (controller.install request later).1 = .ok path)
    (settled : request.IsSettled session.world.files later.world.files)
    (direct : controller.WritesInPlace (.install request) later)
    (aloof : Exchange.LeavesAlone controller.descriptorPath
      (controller.supervisor.register controller.name controller.descriptorPath)) :
    path = controller.descriptorPath ∧
      (controller.install request later).2.world.files.lookupNoFollow path =
        .ok (.file text.toUTF8) ∧
      controller.install request (later.withFiles session.world.files) =
        controller.install request later := by
  obtain ⟨descriptor, built, rfl⟩ := of_preview previewed
  rw [← untouched] at built
  obtain ⟨own, absent, -⟩ := of_install installed
  obtain ⟨other, files, again, located, written⟩ := install_writes installed direct aloof
  obtain ⟨rfl, rfl⟩ := InstallRequest.build_again built again settled
  have vacant : session.world.files.doesExist controller.descriptorPath = false := by
    cases present : session.world.files.doesExist controller.descriptorPath with
    | false => rfl
    | true =>
      have kept := (InstallRequest.grown_of_build built).doesExist present
      cases absent.symm.trans kept
  exact ⟨located, written, install_eq_of_build own absent vacant again built⟩

/-- A preview and an installation of an agent that is not there yet. -/
theorem install_after_preview_leisured :
    let session := unitsWith []
    let later := (leisured.preview agentRequest session).2
    ∃ text path, (leisured.preview agentRequest session).1 = .ok text ∧
      (leisured.install agentRequest later).1 = .ok path ∧
      agentRequest.IsSettled session.world.files later.world.files ∧
      leisured.WritesInPlace (.install agentRequest) later ∧
      (leisured.install agentRequest later).2.world.files.lookupNoFollow path =
        .ok (.file text.toUTF8) := by
  intro session later
  have shows : (leisured.preview agentRequest session).1.isOk = true := by decide +kernel
  have installs : (leisured.install agentRequest later).1.isOk = true := by decide +kernel
  have missing : (later.world.files.canonical ⟨"/bin/agent"⟩).isOk = false := by decide +kernel
  have settled : agentRequest.IsSettled session.world.files later.world.files := by
    intro path member _ resolved named
    obtain rfl : path = ⟨"/bin/agent"⟩ := List.mem_singleton.1 member
    rw [named] at missing
    cases missing
  have direct : leisured.WritesInPlace (.install agentRequest) later := by decide +kernel
  obtain ⟨text, previewed⟩ := Except.exists_of_isOk shows
  obtain ⟨path, installed⟩ := Except.exists_of_isOk installs
  have written := (install_after_preview leisured agentRequest session later text path
    previewed rfl installed settled direct fun _ => rfl).2.1
  exact ⟨text, path, previewed, installed, settled, direct, written⟩

/-- A request to start in the directory for the logs, which is reached through a link. -/
def linkedRequest : InstallRequest :=
  { agentRequest with workingDirectory := some ⟨"/link/logs"⟩, logDirectory := ⟨"/link/logs"⟩ }

/-- The controller of the agent with a supervisor that reads property lists. -/
def listed : Controller Hold :=
  { leisured with supervisor := { leisurely with dialect := .launchd } }

/-- A preview shows a directory to start in that is not there yet by the name it was given.  It
makes the directory on the way, so the installation that follows finds it by another name. -/
theorem install_differs_from_preview :
    let session := unitsWith [(["real"], .directory), (["link"], .link "real")]
    let later := (listed.preview linkedRequest session).2
    ∃ text path, (listed.preview linkedRequest session).1 = .ok text ∧
      (listed.install linkedRequest later).1 = .ok path ∧
      listed.WritesInPlace (.install linkedRequest) later ∧
      (listed.install linkedRequest later).2.world.files.lookupNoFollow path ≠
        .ok (.file text.toUTF8) := by
  intro session later
  have shows : (listed.preview linkedRequest session).1.isOk = true := by decide +kernel
  have installs : (listed.install linkedRequest later).1.isOk = true := by decide +kernel
  have direct : listed.WritesInPlace (.install linkedRequest) later := by decide +kernel
  have first : (linkedRequest.build session.world.files).1.toOption.map (·.workingDirectory) =
      some ⟨"/link/logs"⟩ := by
    decide +kernel
  have second : (linkedRequest.build later.world.files).1.toOption.map (·.workingDirectory) =
      some ⟨"/real/logs"⟩ := by
    decide +kernel
  obtain ⟨text, previewed⟩ := Except.exists_of_isOk shows
  obtain ⟨path, installed⟩ := Except.exists_of_isOk installs
  refine ⟨text, path, previewed, installed, direct, fun same => ?_⟩
  obtain ⟨descriptor, built, rfl⟩ := of_preview previewed
  obtain ⟨other, files, again, -, written⟩ := install_writes installed direct fun _ => rfl
  rw [built] at first
  rw [again] at second
  have bytes : other.render .launchd = descriptor.render .launchd :=
    String.toByteArray_inj.1 (Entry.file.inj (Except.ok.inj (written.symm.trans same)))
  have directories : other.workingDirectory.text = descriptor.workingDirectory.text :=
    congrArg Plist.Content.workingDirectory (Plist.content_eq_of_render bytes)
  have shown : descriptor.workingDirectory = ⟨"/link/logs"⟩ := Option.some.inj first
  have stored : other.workingDirectory = ⟨"/real/logs"⟩ := Option.some.inj second
  rw [shown, stored] at directories
  exact absurd directories (by decide)

end Controller

end Steward
