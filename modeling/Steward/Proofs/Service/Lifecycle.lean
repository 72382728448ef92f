import Steward.Proofs.Service.Faithful

/-!
# The life of a service

With a faithful supervisor a controller is a machine of three states: the
answers to its commands, and the state that is seen after each, are those of
the machine.  The controller keeps its state in two places, the descriptor and
the supervisor, and every command leaves the two in step.
-/

namespace Steward

variable {α β ε : Type}

/-! ## The machine -/

namespace Controller

/-- What the machine answers to a command in a state, and the state it is in then. -/
def expected (controller : Controller α) :
    ServiceState → Command → Except ServiceError Answer × ServiceState
  | .notInstalled, .install _ => (.ok (.installed controller.descriptorPath), .installedStopped)
  | state, .install _ =>
    (.error (.alreadyInstalled controller.name.text controller.descriptorPath), state)
  | .notInstalled, .uninstall => (.ok (.moved .alreadyInDesiredState), .notInstalled)
  | _, .uninstall => (.ok (.moved .completed), .notInstalled)
  | .notInstalled, .start =>
    (.error (.notInstalled controller.name.text controller.descriptorPath), .notInstalled)
  | .installedStopped, .start => (.ok (.moved .completed), .running)
  | .running, .start => (.ok (.moved .alreadyInDesiredState), .running)
  | .running, .stop => (.ok (.moved .completed), .installedStopped)
  | state, .stop => (.ok (.moved .alreadyInDesiredState), state)
  | .notInstalled, .restart =>
    (.error (.notInstalled controller.name.text controller.descriptorPath), .notInstalled)
  | _, .restart => (.ok .restarted, .running)

/-- What is seen of a service: the answer to a command and the state after it. -/
abbrev Sight := Except ServiceError Answer × Except ServiceError ServiceState

/-- What the machine shows, command after command. -/
def trace (controller : Controller α) : ServiceState → List Command → List Sight
  | _, [] => []
  | state, command :: rest =>
    ((controller.expected state command).1, .ok (controller.expected state command).2) ::
      controller.trace (controller.expected state command).2 rest

/-- The session after a command and a look at the state. -/
def after (controller : Controller α) (command : Command) (session : Session (World α)) :
    Session (World α) :=
  (controller.status (ε := ServiceError) (controller.execute command session).2).2

/-- What the controller shows, command after command. -/
def observe (controller : Controller α) : List Command → Session (World α) → List Sight
  | [], _ => []
  | command :: rest, session =>
    ((controller.execute command session).1,
        (controller.status (controller.execute command session).2).1) ::
      controller.observe rest (controller.after command session)

/-- What holds of every command and the session it is given in, command after command. -/
def Along (controller : Controller α) (holds : Command → Session (World α) → Prop) :
    List Command → Session (World α) → Prop
  | [], _ => True
  | command :: rest, session =>
    holds command session ∧ controller.Along holds rest (controller.after command session)

instance decidableAlong (controller : Controller α) (holds : Command → Session (World α) → Prop)
    [∀ command session, Decidable (holds command session)] :
    ∀ commands session, Decidable (controller.Along holds commands session)
  | [], _ => .isTrue trivial
  | command :: rest, session =>
    have := decidableAlong controller holds rest (controller.after command session)
    inferInstanceAs (Decidable (holds command session ∧ _))

end Controller

/-! ## Commands that are served -/

/-- A failure of the files, of a request, or of a wait that was too short or too long. -/
inductive ServiceError.IsExcused : ServiceError → Prop
  | io {path : Path} {cause : IoError} : IsExcused (.io path cause)
  | invalidDescriptor {detail : String} : IsExcused (.invalidDescriptor detail)
  | startTimeout {service : String} {waited : Nat} : IsExcused (.startTimeout service waited)
  | stopTimeout {service : String} {waited : Nat} : IsExcused (.stopTimeout service waited)
  | crashed : IsExcused .crashed

instance : DecidablePred ServiceError.IsExcused
  | .io .. => .isTrue .io
  | .invalidDescriptor _ => .isTrue .invalidDescriptor
  | .startTimeout .. => .isTrue .startTimeout
  | .stopTimeout .. => .isTrue .stopTimeout
  | .crashed => .isTrue .crashed
  | .alreadyInstalled .. | .notInstalled .. | .supervisor .. | .cancelled .. | .unsupported _ =>
    .isFalse nofun

namespace Controller

variable {controller : Controller α}

/-- The command has no excused failure: the files can be changed, the request can be built, and
the wait is long enough and ends at an instant that the clock can tell. -/
def IsServed (controller : Controller α) (command : Command) (session : Session (World α)) :
    Prop :=
  ∀ failure, (controller.execute command session).1 = .error failure → ¬failure.IsExcused

instance (command : Command) (session : Session (World α)) :
    Decidable (controller.IsServed command session) :=
  match answered : (controller.execute command session).1 with
  | .ok _ => .isTrue fun failure failed => by simp [answered] at failed
  | .error failure =>
    if excused : failure.IsExcused then
      .isFalse fun served => served failure answered excused
    else
      .isTrue fun other failed => by
        rw [answered] at failed
        cases failed
        exact excused

/-- Where `install` writes a descriptor, no link stands at the draft, and the way to the descriptor
goes through no link that the descriptor takes the place of. -/
def WritesInPlace (controller : Controller α) (command : Command) (session : Session (World α)) :
    Prop :=
  ∀ request, command = .install request →
    session.world.files.doesExist controller.descriptorPath = false →
      let files := (controller.prepare request session.world.files).2
      files.IsUnlinked controller.draftPath ∧ files.KeepsWay controller.descriptorPath

instance (command : Command) (session : Session (World α)) :
    Decidable (controller.WritesInPlace command session) :=
  match command with
  | .install request =>
    decidable_of_iff (session.world.files.doesExist controller.descriptorPath = false →
      let files := (controller.prepare request session.world.files).2
      files.IsUnlinked controller.draftPath ∧ files.KeepsWay controller.descriptorPath)
      ⟨fun direct _ same => (Command.install.inj same) ▸ direct,
        fun direct => direct request rfl⟩
  | .uninstall | .start | .stop | .restart => .isTrue nofun

end Controller

/-! ## Building and storing a descriptor -/

namespace InstallRequest

theorem resolve_failsAs (path : Path) (what : String) :
    FileAct.FailsAs ServiceError.IsExcused (resolve path what) := by
  refine .ite (.throw_bind .invalidDescriptor _) (.get fun files => ?_)
  split
  · exact .pure _
  · exact .pure _
  · exact .throw .io

theorem directoryOf_failsAs (executable : Path) :
    FileAct.FailsAs ServiceError.IsExcused (directoryOf executable) := by
  unfold directoryOf
  split
  · exact .pure _
  · exact .throw .invalidDescriptor

theorem configArguments_failsAs (config : Option Path) :
    FileAct.FailsAs ServiceError.IsExcused (configArguments config) := by
  unfold configArguments
  split
  · exact .pure _
  · exact .ite (.pure _) (.bind (resolve_failsAs _ _) fun _ => .pure _)

/-- A request that is not built has an excused failure. -/
theorem build_failsAs (request : InstallRequest) :
    FileAct.FailsAs ServiceError.IsExcused request.build := by
  refine .ite (.throw_bind .invalidDescriptor _) (.bind (resolve_failsAs _ _) fun executable => ?_)
  dsimp only
  cases request.workingDirectory
  case' none => refine .bind (directoryOf_failsAs _) fun directory => ?_
  case' some directory => refine .bind (resolve_failsAs _ _) fun directory => ?_
  all_goals
    exact .ite (.throw_bind .invalidDescriptor _) (.bind (.adapt fun _ => .io) fun _ =>
      .bind (resolve_failsAs _ _) fun _ => .bind (configArguments_failsAs _) fun _ => .pure _)

end InstallRequest

namespace Descriptor

variable {path : Path} {text : String} {files later : FileSystem}

theorem store_failsAs (path : Path) (text : String) :
    FileAct.FailsAs ServiceError.IsExcused (store path text) := by
  rw [store_eq]
  refine .bind ?_ fun _ => .adapt fun _ => .io
  unfold makeParent
  split
  · exact .adapt fun _ => .io
  · exact .pure _

/-- A descriptor that is stored is the file at its path, if no links come in between. -/
theorem lookupNoFollow_of_store (stored : store path text files = (.ok (), later))
    (bare : (makeParent path files).2.IsUnlinked (path.extend ".tmp"))
    (apart : (makeParent path files).2.KeepsWay path) :
    later.lookupNoFollow path = .ok (.file text.toUTF8) := by
  rw [store_eq, FileAct.bind_apply] at stored
  cases made : makeParent path files with
  | mk result between =>
    rw [made] at stored bare apart
    cases result with
    | error failure => cases stored
    | ok _ =>
      obtain rfl : (FileAct.replace path (path.extend ".tmp") text between).2 = later :=
        congrArg Prod.snd stored
      apply FileSystem.lookupNoFollow_of_replace bare apart
      have replaced := congrArg Prod.fst stored
      dsimp only [FileAct.adapt_apply] at replaced
      cases ended : (FileAct.replace path (path.extend ".tmp") text between).1 with
      | error failure =>
        rw [ended] at replaced
        cases replaced
      | ok _ => rfl

end Descriptor

namespace Controller

/-! ## Queries and polls -/

section Faithful

variable {controller : Controller α} {view : α → Hold} {session : Session (World α)}
  {found : Except IoError Entry} {asked hold : Hold} {standing : Liveness}

namespace Faithful

theorem probe (faithful : controller.Faithful view)
    (stands : session.Stands view controller.descriptorPath found hold)
    (wanted : Liveness → Option β) (attempt : UInt32) :
    ∃ answer after later,
      session.exchange (controller.probe wanted attempt) = (.ok (wanted answer), after) ∧
        after.Stands view controller.descriptorPath found later ∧ hold.Settles later ∧
          (answer = hold.standing ∨ answer = later.standing) := by
  obtain ⟨answer, after, later, answered, stands, settles, told⟩ := stands.exchange faithful.query
  refine ⟨answer, after, later, ?_, stands, settles, told⟩
  have answered : session.exchange (controller.supervisor.query controller.name).run =
      (.ok answer, after) := answered
  rw [probe_eq, Session.exchange_map, answered]
  rfl

/-- A poll for what was asked for crashes, times out, or ends as soon as a query tells what is
wanted. -/
theorem poll (faithful : controller.Faithful view)
    (stands : session.Stands view controller.descriptorPath found hold)
    (settles : asked.Settles hold) (wanted : Liveness → Option β) (schedule : Schedule) :
    ∃ after later result, after.Stands view controller.descriptorPath found later ∧
      Act.poll .crashed schedule (controller.probe wanted) session = (result, after) ∧
      (result = .error .crashed ∨ (∃ attempts elapsed, result = .ok (.timedOut attempts elapsed)) ∨
        ∃ value answer before, result = .ok (.ready value) ∧ wanted answer = some value ∧
          asked.Settles before ∧ before.Settles later ∧
            (answer = before.standing ∨ answer = later.standing)) := by
  obtain ⟨last, final, polled, ended⟩ :=
    session.poll_ends (session.overrun .crashed) schedule (controller.probe wanted)
  obtain ⟨before, stands, settles⟩ : ∃ hold,
      final.Stands view controller.descriptorPath found hold ∧ asked.Settles hold := by
    refine polled.keeps (P := fun later => ∃ hold,
      later.Stands view controller.descriptorPath found hold ∧ asked.Settles hold)
      ⟨hold, stands, settles⟩ ?_ ?_
    · rintro attempts reached ⟨hold, stands, settles⟩ -
      obtain ⟨answer, after, later, probed, stands, onward, -⟩ :=
        faithful.probe stands wanted (attempts + 1)
      refine ⟨later, ?_, settles.trans onward⟩
      rw [Session.probed, probed]
      exact stands
    · rintro reached span ⟨hold, stands, settles⟩
      exact ⟨hold, stands.rest span, settles⟩
  obtain ⟨answer, after, later, probed, standsAfter, onward, told⟩ :=
    faithful.probe stands wanted (last + 1)
  have reached : Session.probed (controller.probe wanted) last final = after :=
    congrArg Prod.snd probed
  have answered : (final.exchange (controller.probe wanted (last + 1))).1 = .ok (wanted answer) :=
    congrArg Prod.fst probed
  rw [Act.poll_apply]
  generalize session.poll (session.overrun .crashed) schedule (controller.probe wanted) = left
    at ended ⊢
  cases ended with
  | cancelled fired =>
      rw [stands.live] at fired
      cases fired
  | failed _ failure =>
      rw [answered] at failure
      cases failure
  | ready _ success =>
      rw [answered] at success
      rw [reached]
      exact ⟨after, later, _, standsAfter, rfl,
        .inr (.inr ⟨_, answer, before, rfl, Except.ok.inj success, settles, onward, told⟩)⟩
  | timedOut =>
      rw [reached]
      exact ⟨after, later, _, standsAfter, rfl, .inr (.inl ⟨_, _, rfl⟩)⟩
  | crashed _ _ _ untold =>
      rw [reached, Session.overrun_eq_some_iff] at untold
      rw [reached, ← untold.2]
      exact ⟨after, later, _, standsAfter, rfl, .inl rfl⟩
  | disturbed _ _ _ _ fired =>
      rw [reached] at fired
      obtain ⟨rested, undisturbed, -⟩ :=
        standsAfter.restFor (Session.restAfter schedule session.now after)
      rw [undisturbed] at fired
      cases fired

theorem awaitRunning (faithful : controller.Faithful view)
    (stands : session.Stands view controller.descriptorPath found hold)
    (settles : Hold.Settles ⟨.loaded, some .start⟩ hold) :
    ∃ after later, after.Stands view controller.descriptorPath found later ∧
      ((∃ failure : ServiceError, failure.IsExcused ∧
          controller.awaitRunning session = (.error failure, after)) ∨
        controller.awaitRunning session = (.ok .completed, after) ∧
          ∃ pid, later = ⟨.running pid, none⟩) := by
  obtain ⟨after, later, result, stands, polled, ended⟩ :=
    faithful.poll stands settles runningPid controller.timings.startSchedule
  refine ⟨after, later, stands, ?_⟩
  rw [Controller.awaitRunning, Act.bind_apply, polled]
  obtain rfl | ⟨attempts, elapsed, rfl⟩ |
    ⟨pid, answer, before, rfl, chosen, settled, onward, told⟩ := ended
  · exact .inl ⟨_, .crashed, rfl⟩
  · exact .inl ⟨_, .startTimeout, rfl⟩
  · refine .inr ⟨rfl, ?_⟩
    cases answer with
    | running pid => exact ⟨pid, settled.running_of_started onward told rfl⟩
    | loaded => cases chosen
    | notLoaded => cases chosen

theorem awaitStopped (faithful : controller.Faithful view)
    (stands : session.Stands view controller.descriptorPath found hold) {pid : UInt32}
    (settles : Hold.Settles ⟨.running pid, some .stop⟩ hold) :
    ∃ after later, after.Stands view controller.descriptorPath found later ∧
      ((∃ failure : ServiceError, failure.IsExcused ∧
          controller.awaitStopped session = (.error failure, after)) ∨
        controller.awaitStopped session = (.ok .completed, after) ∧
          ∃ standing : Liveness, standing.isRunning = false ∧ later = ⟨standing, none⟩) := by
  obtain ⟨after, later, result, stands, polled, ended⟩ :=
    faithful.poll stands settles stopped controller.timings.stopSchedule
  refine ⟨after, later, stands, ?_⟩
  rw [Controller.awaitStopped, Act.bind_apply, polled]
  obtain rfl | ⟨attempts, elapsed, rfl⟩ | ⟨_, answer, before, rfl, chosen, settled, onward, told⟩ :=
    ended
  · exact .inl ⟨_, .crashed, rfl⟩
  · exact .inl ⟨_, .stopTimeout, rfl⟩
  · refine .inr ⟨rfl, settled.idle_of_stopped onward told ?_⟩
    cases idle : answer.isRunning with
    | false => rfl
    | true => simp [stopped, idle] at chosen

/-! ## Commands of a settled service -/

theorem settled_query (faithful : controller.Faithful view)
    (stands : session.Stands view controller.descriptorPath found ⟨standing, none⟩) :
    ∃ after, session.exchange (controller.supervisor.query controller.name) =
        (.ok standing, after) ∧
      after.Stands view controller.descriptorPath found ⟨standing, none⟩ := by
  obtain ⟨answer, after, later, answered, stands, settles, told⟩ := stands.exchange faithful.query
  obtain rfl := settles.eq_of_settled
  obtain rfl : answer = standing := told.elim id id
  exact ⟨after, answered, stands⟩

/-- What is shown of a settled service. -/
theorem status (faithful : controller.Faithful view)
    (stands : session.Stands view controller.descriptorPath found ⟨standing, none⟩) :
    ∃ after, controller.status (ε := ε) session =
        (.ok (stateOf (.ok standing) (session.world.files.doesExist controller.descriptorPath)),
          after) ∧
      after.Stands view controller.descriptorPath found ⟨standing, none⟩ := by
  obtain ⟨after, answered, stands⟩ := faithful.settled_query stands
  refine ⟨after, ?_, stands⟩
  rw [Controller.status, Act.bind_apply, report, Act.bind_apply, Act.files_apply]
  simp only [Act.bind_apply, Act.attempt_apply, answered]
  rfl

theorem checkToken (stands : session.Stands view controller.descriptorPath found hold)
    (operation : String) : controller.checkToken operation session = (.ok (), session) := by
  rw [Controller.checkToken, Act.bind_apply, Act.isCancelled_apply, stands.live]
  rfl

/-- Stopping a service that does not run does nothing. -/
theorem stop_idle (faithful : controller.Faithful view) (idle : standing.isRunning = false)
    (stands : session.Stands view controller.descriptorPath found ⟨standing, none⟩) :
    ∃ after, controller.stop session = (.ok .alreadyInDesiredState, after) ∧
      after.Stands view controller.descriptorPath found ⟨standing, none⟩ := by
  obtain ⟨after, answered, standsAfter⟩ := faithful.settled_query stands
  refine ⟨after, ?_, standsAfter⟩
  rw [Controller.stop, Act.bind_apply, checkToken stands]
  simp only [Act.bind_apply, Act.attempt_apply, answered, idle]
  rfl

/-- Stopping a running service has an excused failure or leaves it not running. -/
theorem stop_running (faithful : controller.Faithful view) {pid : UInt32}
    (stands : session.Stands view controller.descriptorPath found ⟨.running pid, none⟩) :
    ∃ after later, after.Stands view controller.descriptorPath found later ∧
      ((∃ failure : ServiceError, failure.IsExcused ∧
          controller.stop session = (.error failure, after)) ∨
        controller.stop session = (.ok .completed, after) ∧
          ∃ standing : Liveness, standing.isRunning = false ∧ later = ⟨standing, none⟩) := by
  obtain ⟨known, answered, standsKnown⟩ := faithful.settled_query stands
  obtain ⟨_, asked, hold, done, standsAsked, effect⟩ := standsKnown.exchange faithful.stop
  obtain ⟨after, later, standsAfter, ended⟩ := faithful.awaitStopped standsAsked (effect pid rfl)
  have same : controller.stop session = controller.awaitStopped asked := by
    rw [Controller.stop, Act.bind_apply, checkToken stands]
    simp only [Act.bind_apply, Act.attempt_apply, answered, Liveness.isRunning, ↓reduceIte, halt,
      done]
  rw [same]
  exact ⟨after, later, standsAfter, ended⟩

/-- Whatever comes of stopping a settled service, only its supervisor has to do with it. -/
theorem stop_stands (faithful : controller.Faithful view)
    (stands : session.Stands view controller.descriptorPath found ⟨standing, none⟩) :
    ∃ later, (controller.stop session).2.Stands view controller.descriptorPath found later := by
  cases running : standing.isRunning with
  | false =>
    obtain ⟨after, stopped, standsAfter⟩ := faithful.stop_idle running stands
    rw [stopped]
    exact ⟨_, standsAfter⟩
  | true =>
    cases standing with
    | running pid =>
      obtain ⟨after, later, standsAfter, ⟨failure, -, stopped⟩ | ⟨stopped, -⟩⟩ :=
        faithful.stop_running stands
      · rw [stopped]
        exact ⟨later, standsAfter⟩
      · rw [stopped]
        exact ⟨later, standsAfter⟩
    | loaded => cases running
    | notLoaded => cases running

/-- A service without a descriptor is not started. -/
theorem start_absent (stands : session.Stands view controller.descriptorPath found hold)
    (absent : session.world.files.doesExist controller.descriptorPath = false) :
    controller.start session =
      (.error (.notInstalled controller.name.text controller.descriptorPath), session) := by
  rw [Controller.start, Act.bind_apply, checkToken stands]
  simp only [Act.bind_apply, Act.files_apply, absent]
  rfl

/-- Starting a running service does nothing. -/
theorem start_running (faithful : controller.Faithful view) {pid : UInt32}
    (stands : session.Stands view controller.descriptorPath found ⟨.running pid, none⟩)
    (present : session.world.files.doesExist controller.descriptorPath = true) :
    ∃ after, controller.start session = (.ok .alreadyInDesiredState, after) ∧
      after.Stands view controller.descriptorPath found ⟨.running pid, none⟩ := by
  obtain ⟨after, answered, standsAfter⟩ := faithful.settled_query stands
  refine ⟨after, ?_, standsAfter⟩
  rw [Controller.start, Act.bind_apply, checkToken stands]
  simp only [Act.bind_apply, Act.files_apply, present, Bool.not_true, Bool.false_eq_true,
    ↓reduceIte, Act.attempt_apply, answered]
  rfl

/-- Starting a loaded service has an excused failure or leaves it running. -/
theorem launch_loaded (faithful : controller.Faithful view) {known : Except ToolError Liveness}
    (stands : session.Stands view controller.descriptorPath found ⟨.loaded, none⟩)
    (loaded : known = .ok .loaded) :
    ∃ after later, after.Stands view controller.descriptorPath found later ∧
      ((∃ failure : ServiceError, failure.IsExcused ∧
          controller.launch known session = (.error failure, after)) ∨
        controller.launch known session = (.ok .completed, after) ∧
          ∃ pid, later = ⟨.running pid, none⟩) := by
  subst loaded
  obtain ⟨_, asked, hold, done, standsAsked, effect⟩ := stands.exchange faithful.start
  obtain ⟨after, later, standsAfter, ended⟩ := faithful.awaitRunning standsAsked (effect rfl)
  have same : controller.launch (.ok .loaded) session = controller.awaitRunning asked := by
    change (Act.attempt (controller.supervisor.start controller.name) >>= _) session = _
    rw [Act.bind_apply, Act.attempt_apply, done]
  rw [same]
  exact ⟨after, later, standsAfter, ended⟩

/-- Registering an unknown service loads it. -/
theorem register_unknown (faithful : controller.Faithful view)
    (stands : session.Stands view controller.descriptorPath found ⟨.notLoaded, none⟩) :
    ∃ after, controller.register session = (.ok (.ok ()), after) ∧
      after.Stands view controller.descriptorPath found ⟨.loaded, none⟩ := by
  obtain ⟨_, after, later, done, standsAfter, effect⟩ := stands.exchange faithful.register
  obtain rfl := effect rfl
  refine ⟨after, ?_, standsAfter⟩
  rw [Controller.register, Act.attempt_apply, done]

/-- Starting a service that does not run has an excused failure or leaves it running. -/
theorem start_idle (faithful : controller.Faithful view) (idle : standing.isRunning = false)
    (stands : session.Stands view controller.descriptorPath found ⟨standing, none⟩)
    (present : session.world.files.doesExist controller.descriptorPath = true) :
    ∃ after later, after.Stands view controller.descriptorPath found later ∧
      ((∃ failure : ServiceError, failure.IsExcused ∧
          controller.start session = (.error failure, after)) ∨
        controller.start session = (.ok .completed, after) ∧
          ∃ pid, later = ⟨.running pid, none⟩) := by
  obtain ⟨known, answered, standsKnown⟩ := faithful.settled_query stands
  have same : controller.start session = controller.launch (.ok standing) known := by
    rw [Controller.start, Act.bind_apply, checkToken stands]
    simp only [Act.bind_apply, Act.files_apply, present, Bool.not_true, Bool.false_eq_true,
      ↓reduceIte, Act.attempt_apply, answered]
    cases standing with
    | running pid => cases idle
    | loaded => rfl
    | notLoaded => rfl
  rw [same]
  cases standing with
  | running pid => cases idle
  | loaded => exact faithful.launch_loaded standsKnown rfl
  | notLoaded =>
    obtain ⟨loaded, registered, standsLoaded⟩ := faithful.register_unknown standsKnown
    have loading : controller.launch (.ok .notLoaded) known =
        controller.launch (.ok .loaded) loaded := by
      change (controller.register >>= _) known = _
      rw [Act.bind_apply, registered]
      rfl
    rw [loading]
    exact faithful.launch_loaded standsLoaded rfl

/-- After a stop that succeeded a restart is a start, if it does not crash in between. -/
theorem restart_of_stop {stopped : Session (World α)} {transition : Transition}
    (done : controller.stop session = (.ok transition, stopped))
    (stands : stopped.Stands view controller.descriptorPath found ⟨standing, none⟩)
    (served : controller.IsServed .restart session) :
    ∃ settled, settled.Stands view controller.descriptorPath found ⟨standing, none⟩ ∧
      controller.execute .restart session =
        (((controller.start settled).1.map fun _ => Answer.restarted),
          (controller.start settled).2) := by
  rw [IsServed] at served
  rw [execute, Act.bind_apply, restart, Act.bind_apply, done] at served ⊢
  dsimp only at served ⊢
  rw [Act.bind_apply, Act.pause_apply] at served ⊢
  obtain beyond | ⟨settled, paused, standsSettled⟩ :=
    stands.pause ServiceError.crashed controller.timings.restartSettle
  · rw [beyond] at served
    exact absurd .crashed (served _ rfl)
  · refine ⟨settled, standsSettled, ?_⟩
    rw [paused]
    simp only [Act.bind_apply, Bool.not_true, Bool.false_eq_true, ↓reduceIte]
    rcases controller.start settled with ⟨failure | transition, after⟩ <;> rfl

/-- A request that is served is for the controller's own service. -/
theorem checkRequest_of_isServed {request : InstallRequest}
    (served : controller.IsServed (.install request) session) :
    controller.checkRequest request session = (.ok (), session) := by
  by_cases own : request.name = controller.name
  · rw [checkRequest, if_neg (not_not_intro own)]
    rfl
  · obtain ⟨detail, refused⟩ : ∃ detail, controller.checkRequest request session =
        (.error (.invalidDescriptor detail), session) := by
      rw [checkRequest, if_pos own]
      exact ⟨_, rfl⟩
    have failed : (controller.execute (.install request) session).1 =
        .error (.invalidDescriptor detail) := by
      rw [execute, Act.bind_apply, install, Act.bind_apply, refused]
    exact absurd .invalidDescriptor (served _ failed)

/-- A descriptor that is there is not installed again. -/
theorem install_present {request : InstallRequest}
    (present : session.world.files.doesExist controller.descriptorPath = true)
    (served : controller.IsServed (.install request) session) :
    controller.execute (.install request) session =
      (.error (.alreadyInstalled controller.name.text controller.descriptorPath), session) := by
  rw [execute, Act.bind_apply, install, Act.bind_apply, checkRequest_of_isServed served]
  dsimp only
  rw [Act.bind_apply, Act.files_apply]
  dsimp only
  rw [if_pos present]
  rfl

/-- A descriptor that is not there is written, and the service is loaded. -/
theorem install_absent (faithful : controller.Faithful view) {request : InstallRequest}
    {failure : IoError}
    (stands : session.Stands view controller.descriptorPath (.error failure) ⟨.notLoaded, none⟩)
    (served : controller.IsServed (.install request) session)
    (direct : controller.WritesInPlace (.install request) session) :
    ∃ after bytes, controller.execute (.install request) session =
        (.ok (.installed controller.descriptorPath), after) ∧
      after.Stands view controller.descriptorPath (.ok (.file bytes)) ⟨.loaded, none⟩ := by
  have absent := stands.doesNotExist
  obtain ⟨bare, apart⟩ := direct request rfl absent
  have checked := checkRequest_of_isServed served
  rw [IsServed] at served
  rw [execute, Act.bind_apply, install, Act.bind_apply, checked] at served ⊢
  dsimp only at served ⊢
  rw [Act.bind_apply, Act.files_apply] at served ⊢
  dsimp only at served ⊢
  rw [absent] at served ⊢
  simp only [Bool.false_eq_true, ↓reduceIte] at served ⊢
  rw [prepare, FileAct.bind_apply] at bare apart
  rw [Act.bind_apply, Act.onFiles_apply] at served ⊢
  rcases built : request.build session.world.files with ⟨failure | descriptor, files⟩ <;>
    rw [built] at served bare apart
  · exact absurd (request.build_failsAs _ _ _ built) (served failure rfl)
  dsimp only at served bare apart ⊢
  rw [Act.bind_apply, Act.onFiles_apply, Session.files_withFiles] at served ⊢
  rcases stored : Descriptor.store controller.descriptorPath
    (descriptor.render controller.supervisor.dialect) files with ⟨failure | done, later⟩ <;>
    rw [stored] at served
  · exact absurd (Descriptor.store_failsAs _ _ _ _ _ stored) (served failure rfl)
  have told := Descriptor.lookupNoFollow_of_store stored bare apart
  have standsStored : ((session.withFiles files).withFiles later).Stands view
      controller.descriptorPath _ ⟨.notLoaded, none⟩ := stands.withFiles told
  obtain ⟨after, registered, standsAfter⟩ := faithful.register_unknown standsStored
  dsimp only
  rw [Act.bind_apply, registered]
  exact ⟨after, _, rfl, standsAfter⟩

/-- Nothing is done to remove a service that is not there. -/
theorem uninstall_absent (faithful : controller.Faithful view) {failure : IoError}
    (stands : session.Stands view controller.descriptorPath (.error failure) ⟨.notLoaded, none⟩) :
    ∃ after, controller.execute .uninstall session =
        (.ok (.moved .alreadyInDesiredState), after) ∧
      after.Stands view controller.descriptorPath (.error failure) ⟨.notLoaded, none⟩ := by
  obtain ⟨after, told, standsAfter⟩ := faithful.status (ε := ServiceError) stands
  rw [stands.doesNotExist] at told
  refine ⟨after, ?_, standsAfter⟩
  rw [execute, Act.bind_apply, uninstall, Act.bind_apply, told]
  simp only [stateOf, Bool.false_eq_true, ↓reduceIte, Act.bind_apply, Act.files_apply,
    standsAfter.doesNotExist, decide_true, Bool.not_false, Bool.and_self, Act.pure_apply]

/-- What is done to remove a service once it does not have to be stopped any more. -/
theorem unload (faithful : controller.Faithful view)
    (stands : session.Stands view controller.descriptorPath found hold) :
    ∃ unknown : Session (World α),
      unknown.Stands view controller.descriptorPath found ⟨.notLoaded, none⟩ ∧
      controller.unload session =
      (((FileAct.clear controller.descriptorPath unknown.world.files).1.mapError
          (ServiceError.io controller.descriptorPath)).map fun _ => .completed,
        unknown.withFiles (unknown.world.files.discarded controller.descriptorPath)) := by
  obtain ⟨_, unknown, later, done, standsUnknown, rfl⟩ := stands.exchange faithful.deregister
  refine ⟨unknown, standsUnknown, ?_⟩
  rw [Controller.unload, Act.bind_apply, Act.attempt_apply, done]
  dsimp only
  rw [Act.bind_apply, Act.onFiles_apply, FileAct.adapt_apply]
  have left : (FileAct.clear controller.descriptorPath unknown.world.files).2 =
      unknown.world.files.discarded controller.descriptorPath := by
    rw [FileAct.clear_apply]
  rw [left]
  rcases (FileAct.clear controller.descriptorPath unknown.world.files).1 with failure | _ <;> rfl

/-- A stop is tried, and an uninstallation goes on from there if the stop does not crash. -/
theorem tryStop (faithful : controller.Faithful view)
    (stands : session.Stands view controller.descriptorPath found ⟨standing, none⟩) :
    ∃ after later, after.Stands view controller.descriptorPath found later ∧
      (controller.tryStop session = (.error .crashed, after) ∨
        controller.tryStop session = (.ok (), after)) := by
  obtain ⟨later, standsAfter⟩ := faithful.stop_stands stands
  refine ⟨_, later, standsAfter, ?_⟩
  rw [Controller.tryStop, Act.bind_apply, Act.outcome_apply]
  dsimp only
  cases (controller.stop session).1 with
  | ok _ => exact .inr rfl
  | error failure =>
    by_cases crash : failure = .crashed
    · simp [crash]
    · simp [crash]

/-- A service that is there is removed, whether it can be stopped or not. -/
theorem uninstall_present (faithful : controller.Faithful view) {bytes : ByteArray}
    (stands : session.Stands view controller.descriptorPath (.ok (.file bytes)) ⟨standing, none⟩)
    (served : controller.IsServed .uninstall session) :
    ∃ after failure, controller.execute .uninstall session = (.ok (.moved .completed), after) ∧
      after.Stands view controller.descriptorPath (.error failure) ⟨.notLoaded, none⟩ := by
  obtain ⟨seen, told, standsSeen⟩ := faithful.status (ε := ServiceError) stands
  rw [stands.doesExist] at told
  obtain ⟨halted, later, standsHalted, ended⟩ : ∃ halted later,
      halted.Stands view controller.descriptorPath (.ok (.file bytes)) later ∧
        (controller.uninstall session = (.error .crashed, halted) ∨
          controller.uninstall session = controller.unload halted) := by
    rw [uninstall, Act.bind_apply, told]
    cases standing with
    | running pid =>
      obtain ⟨after, later, standsAfter, stopped | stopped⟩ := faithful.tryStop standsSeen
      all_goals refine ⟨after, later, standsAfter, ?_⟩
      all_goals simp only [stateOf, reduceCtorEq, decide_false, Bool.false_and, Bool.false_eq_true,
        ↓reduceIte, Act.bind_apply, Act.files_apply, stopped, true_or, or_true]
    | loaded => exact ⟨seen, _, standsSeen, .inr rfl⟩
    | notLoaded => exact ⟨seen, _, standsSeen, .inr rfl⟩
  rw [IsServed] at served
  rw [execute, Act.bind_apply] at served ⊢
  obtain crashed | same := ended
  · rw [crashed] at served
    exact absurd .crashed (served _ rfl)
  obtain ⟨unknown, standsUnknown, removed⟩ := faithful.unload standsHalted
  rw [same, removed] at served ⊢
  cases cleared : (FileAct.clear controller.descriptorPath unknown.world.files).1 with
  | error failure =>
    rw [cleared] at served
    exact absurd .io (served _ rfl)
  | ok _ =>
    have vacant := FileSystem.isVacant_of_clear cleared
    cases told : (unknown.world.files.discarded controller.descriptorPath).lookupNoFollow
        controller.descriptorPath with
    | ok entry => exact absurd told (vacant entry)
    | error failure => exact ⟨_, failure, rfl, standsUnknown.withFiles told⟩

end Faithful

/-! ## Controllers as machines -/

/-- The descriptor and the supervisor are as they are in a state of the machine. -/
def Mirrors (controller : Controller α) (view : α → Hold) (session : Session (World α)) :
    ServiceState → Prop
  | .notInstalled =>
    ∃ failure, session.Stands view controller.descriptorPath (.error failure) ⟨.notLoaded, none⟩
  | .installedStopped => ∃ bytes, ∃ standing : Liveness, standing.isRunning = false ∧
    session.Stands view controller.descriptorPath (.ok (.file bytes)) ⟨standing, none⟩
  | .running => ∃ bytes pid,
    session.Stands view controller.descriptorPath (.ok (.file bytes)) ⟨.running pid, none⟩

/-- A command has the answer that the machine gives and leaves the state that the machine is in. -/
def Agrees (controller : Controller α) (view : α → Hold) (command : Command)
    (session : Session (World α)) (state : ServiceState) : Prop :=
  ∃ after, controller.execute command session = ((controller.expected state command).1, after) ∧
    controller.Mirrors view after (controller.expected state command).2

variable {state : ServiceState}

/-- The state that is seen is that of the machine, and looking at it changes nothing. -/
theorem status_mirrors (faithful : controller.Faithful view)
    (mirrors : controller.Mirrors view session state) :
    ∃ after, controller.status (ε := ε) session = (.ok state, after) ∧
      controller.Mirrors view after state := by
  cases state with
  | notInstalled =>
      obtain ⟨failure, stands⟩ := mirrors
      obtain ⟨after, told, standsAfter⟩ := faithful.status (ε := ε) stands
      rw [stands.doesNotExist] at told
      exact ⟨after, told, failure, standsAfter⟩
  | installedStopped =>
      obtain ⟨bytes, standing, idle, stands⟩ := mirrors
      obtain ⟨after, told, standsAfter⟩ := faithful.status (ε := ε) stands
      rw [stands.doesExist] at told
      refine ⟨after, ?_, bytes, standing, idle, standsAfter⟩
      cases standing with
      | running pid => cases idle
      | loaded => exact told
      | notLoaded => exact told
  | running =>
      obtain ⟨bytes, pid, stands⟩ := mirrors
      obtain ⟨after, told, standsAfter⟩ := faithful.status (ε := ε) stands
      exact ⟨after, told, bytes, pid, standsAfter⟩

theorem install_agrees (faithful : controller.Faithful view) {request : InstallRequest}
    (mirrors : controller.Mirrors view session state)
    (served : controller.IsServed (.install request) session)
    (direct : controller.WritesInPlace (.install request) session) :
    controller.Agrees view (.install request) session state := by
  cases state with
  | notInstalled =>
      obtain ⟨failure, stands⟩ := mirrors
      obtain ⟨after, bytes, done, standsAfter⟩ := faithful.install_absent stands served direct
      exact ⟨after, done, bytes, .loaded, rfl, standsAfter⟩
  | installedStopped =>
      obtain ⟨bytes, standing, idle, stands⟩ := mirrors
      have present := Faithful.install_present stands.doesExist served
      exact ⟨session, present, bytes, standing, idle, stands⟩
  | running =>
      obtain ⟨bytes, pid, stands⟩ := mirrors
      exact ⟨session, Faithful.install_present stands.doesExist served, bytes, pid, stands⟩

theorem uninstall_agrees (faithful : controller.Faithful view)
    (mirrors : controller.Mirrors view session state)
    (served : controller.IsServed .uninstall session) :
    controller.Agrees view .uninstall session state := by
  cases state with
  | notInstalled =>
      obtain ⟨failure, stands⟩ := mirrors
      obtain ⟨after, done, standsAfter⟩ := faithful.uninstall_absent stands
      exact ⟨after, done, failure, standsAfter⟩
  | installedStopped =>
      obtain ⟨bytes, standing, idle, stands⟩ := mirrors
      obtain ⟨after, failure, done, standsAfter⟩ := faithful.uninstall_present stands served
      exact ⟨after, done, failure, standsAfter⟩
  | running =>
      obtain ⟨bytes, pid, stands⟩ := mirrors
      obtain ⟨after, failure, done, standsAfter⟩ := faithful.uninstall_present stands served
      exact ⟨after, done, failure, standsAfter⟩

theorem start_agrees (faithful : controller.Faithful view)
    (mirrors : controller.Mirrors view session state)
    (served : controller.IsServed .start session) :
    controller.Agrees view .start session state := by
  have run : controller.execute .start session =
      ((controller.start session).1.map .moved, (controller.start session).2) :=
    Act.bind_pure_apply _ _ _
  rw [IsServed, run] at served
  rw [Agrees, run]
  cases state with
  | notInstalled =>
      obtain ⟨failure, stands⟩ := mirrors
      rw [Faithful.start_absent stands stands.doesNotExist]
      exact ⟨session, rfl, failure, stands⟩
  | installedStopped =>
      obtain ⟨bytes, standing, idle, stands⟩ := mirrors
      obtain ⟨after, later, standsAfter, ⟨failure, excused, failed⟩ | ⟨done, pid, rfl⟩⟩ :=
        faithful.start_idle idle stands stands.doesExist
      · rw [failed] at served
        exact absurd excused (served _ rfl)
      · rw [done]
        exact ⟨after, rfl, bytes, pid, standsAfter⟩
  | running =>
      obtain ⟨bytes, pid, stands⟩ := mirrors
      obtain ⟨after, done, standsAfter⟩ := faithful.start_running stands stands.doesExist
      rw [done]
      exact ⟨after, rfl, bytes, pid, standsAfter⟩

theorem stop_agrees (faithful : controller.Faithful view)
    (mirrors : controller.Mirrors view session state)
    (served : controller.IsServed .stop session) :
    controller.Agrees view .stop session state := by
  have run : controller.execute .stop session =
      ((controller.stop session).1.map .moved, (controller.stop session).2) :=
    Act.bind_pure_apply _ _ _
  rw [IsServed, run] at served
  rw [Agrees, run]
  cases state with
  | notInstalled =>
      obtain ⟨failure, stands⟩ := mirrors
      obtain ⟨after, done, standsAfter⟩ := faithful.stop_idle rfl stands
      rw [done]
      exact ⟨after, rfl, failure, standsAfter⟩
  | installedStopped =>
      obtain ⟨bytes, standing, idle, stands⟩ := mirrors
      obtain ⟨after, done, standsAfter⟩ := faithful.stop_idle idle stands
      rw [done]
      exact ⟨after, rfl, bytes, standing, idle, standsAfter⟩
  | running =>
      obtain ⟨bytes, pid, stands⟩ := mirrors
      obtain ⟨after, later, standsAfter, ⟨failure, excused, failed⟩ | ⟨done, standing, idle, rfl⟩⟩ :=
        faithful.stop_running stands
      · rw [failed] at served
        exact absurd excused (served _ rfl)
      · rw [done]
        exact ⟨after, rfl, bytes, standing, idle, standsAfter⟩

/-- A restart whose stop has succeeded leaves the service running. -/
theorem restart_of_idle (faithful : controller.Faithful view) {stopped : Session (World α)}
    {transition : Transition} {bytes : ByteArray}
    (done : controller.stop session = (.ok transition, stopped))
    (idle : standing.isRunning = false)
    (stands : stopped.Stands view controller.descriptorPath (.ok (.file bytes)) ⟨standing, none⟩)
    (served : controller.IsServed .restart session) :
    ∃ after pid, controller.execute .restart session = (.ok .restarted, after) ∧
      after.Stands view controller.descriptorPath (.ok (.file bytes)) ⟨.running pid, none⟩ := by
  obtain ⟨settled, standsSettled, run⟩ := Faithful.restart_of_stop done stands served
  rw [IsServed, run] at served
  rw [run]
  obtain ⟨after, later, standsAfter, ⟨failure, excused, failed⟩ | ⟨started, pid, rfl⟩⟩ :=
    faithful.start_idle idle standsSettled standsSettled.doesExist
  · rw [failed] at served
    exact absurd excused (served _ rfl)
  · rw [started]
    exact ⟨after, pid, rfl, standsAfter⟩

theorem restart_agrees (faithful : controller.Faithful view)
    (mirrors : controller.Mirrors view session state)
    (served : controller.IsServed .restart session) :
    controller.Agrees view .restart session state := by
  cases state with
  | notInstalled =>
      obtain ⟨failure, stands⟩ := mirrors
      obtain ⟨stopped, done, standsStopped⟩ := faithful.stop_idle rfl stands
      obtain ⟨settled, standsSettled, run⟩ := Faithful.restart_of_stop done standsStopped served
      rw [Faithful.start_absent standsSettled standsSettled.doesNotExist] at run
      exact ⟨settled, run, failure, standsSettled⟩
  | installedStopped =>
      obtain ⟨bytes, standing, idle, stands⟩ := mirrors
      obtain ⟨stopped, done, standsStopped⟩ := faithful.stop_idle idle stands
      obtain ⟨after, pid, run, standsAfter⟩ :=
        restart_of_idle faithful done idle standsStopped served
      exact ⟨after, run, bytes, pid, standsAfter⟩
  | running =>
      obtain ⟨bytes, pid, stands⟩ := mirrors
      obtain ⟨stopped, later, standsStopped,
        ⟨failure, excused, failed⟩ | ⟨done, standing, idle, rfl⟩⟩ := faithful.stop_running stands
      · have ended : (controller.execute .restart session).1 = .error failure := by
          rw [execute, Act.bind_apply, restart, Act.bind_apply, failed]
        exact absurd excused (served _ ended)
      · obtain ⟨after, pid, run, standsAfter⟩ :=
          restart_of_idle faithful done idle standsStopped served
        exact ⟨after, run, bytes, pid, standsAfter⟩

/-- One command: the controller and the machine stay in step. -/
theorem execute_agrees (faithful : controller.Faithful view) {command : Command}
    (mirrors : controller.Mirrors view session state)
    (served : controller.IsServed command session)
    (direct : controller.WritesInPlace command session) :
    controller.Agrees view command session state := by
  cases command with
  | install request => exact install_agrees faithful mirrors served direct
  | uninstall => exact uninstall_agrees faithful mirrors served
  | start => exact start_agrees faithful mirrors served
  | stop => exact stop_agrees faithful mirrors served
  | restart => exact restart_agrees faithful mirrors served

/-- A controller that is in step with the machine shows what the machine shows. -/
theorem observe_of_mirrors (faithful : controller.Faithful view) (commands : List Command)
    (mirrors : controller.Mirrors view session state)
    (served : controller.Along controller.IsServed commands session)
    (direct : controller.Along controller.WritesInPlace commands session) :
    controller.observe commands session = controller.trace state commands := by
  induction commands generalizing session state with
  | nil => rfl
  | cons command rest inductionHypothesis =>
    obtain ⟨servedHere, servedLater⟩ := served
    obtain ⟨directHere, directLater⟩ := direct
    obtain ⟨between, done, mirrorsBetween⟩ :=
      execute_agrees faithful mirrors servedHere directHere
    obtain ⟨after, told, mirrorsAfter⟩ :=
      status_mirrors (ε := ServiceError) faithful mirrorsBetween
    have reached : controller.after command session = after := by
      rw [Controller.after, done, told]
    rw [reached] at servedLater directLater
    rw [observe, trace, reached, done, told]
    rw [inductionHypothesis mirrorsAfter servedLater directLater]

end Faithful

/-! ## The life of an agent -/

/-- What is asked to be installed. -/
def agentRequest : InstallRequest where
  name := ⟨"agent"⟩
  executable := ⟨"/bin/agent"⟩
  config := none
  workingDirectory := none
  logDirectory := ⟨"/logs"⟩
  user := none
  restart := .standard

/-- A session in which nothing is known of the agent, with the given objects among the units. -/
def unitsWith (table : List (Place × Entry)) : Session (World Hold) where
  world := ⟨⟨(["units"], .directory) :: table, [], []⟩, ⟨.notLoaded, none⟩⟩
  now := 0
  horizon := Nanos.lastOfClock
  token := .fresh
  drift := fun _ => 0
  rests := 0

/-- With a faithful supervisor and a token that never fires, from where there is neither a
descriptor nor anything known of the service, a controller shows what the machine shows. -/
theorem observe_eq_trace (controller : Controller α) {view : α → Hold}
    (faithful : controller.Faithful view) (commands : List Command)
    (session : Session (World α)) (quiet : session.token.NeverFires)
    (vacant : session.world.files.IsVacant controller.descriptorPath)
    (unknown : view session.world.agent = ⟨.notLoaded, none⟩)
    (served : controller.Along controller.IsServed commands session)
    (direct : controller.Along controller.WritesInPlace commands session) :
    controller.observe commands session = controller.trace .notInstalled commands := by
  cases told : session.world.files.lookupNoFollow controller.descriptorPath with
  | ok entry => exact absurd told (vacant entry)
  | error failure =>
      have mirrors : controller.Mirrors view session .notInstalled :=
        ⟨failure, quiet, told, unknown⟩
      exact observe_of_mirrors faithful commands mirrors served direct

theorem observe_eq_trace_leisured :
    let commands : List Command :=
      [.start, .install agentRequest, .start, .restart, .install agentRequest, .stop, .uninstall]
    let session := unitsWith []
    leisured.Faithful id ∧ session.token.NeverFires ∧
      session.world.files.IsVacant leisured.descriptorPath ∧
      leisured.Along leisured.IsServed commands session ∧
      leisured.Along leisured.WritesInPlace commands session ∧
      leisured.observe commands session = leisured.trace .notInstalled commands := by
  intro commands session
  have quiet : session.token.NeverFires := fun _ => rfl
  have told : session.world.files.lookupNoFollow leisured.descriptorPath = .error .notFound := by
    rfl
  have vacant : session.world.files.IsVacant leisured.descriptorPath :=
    FileSystem.isVacant_of_error told
  have served : leisured.Along leisured.IsServed commands session := by decide +kernel
  have unlinked : leisured.Along leisured.WritesInPlace commands session := by decide +kernel
  exact ⟨leisured_faithful, quiet, vacant, served, unlinked,
    observe_eq_trace leisured leisured_faithful commands session quiet vacant rfl served unlinked⟩

/-- Three ways for a service that is installed and started not to run.  The draft is a link to the
descriptor, and a served installation moves it to where it points; the descriptor is reached through
a link that it takes the place of; and a restart is to rest longer than the clock can tell. -/
theorem observe_ne_trace :
    let commands : List Command := [.install agentRequest, .start, .restart]
    let drafted := unitsWith [(["units", "agent.service.tmp"], .link "agent.service")]
    let winding := unhurried ⟨"/made/../agent.service/../agent.service"⟩ ⟨1, 5, 5, 0⟩
    let linked := unitsWith [(["agent.service"], .link "units")]
    let restful := unhurried ⟨"/units/agent.service"⟩ ⟨1, 5, 5, 18446744073709551615000000000⟩
    (leisured.Faithful id ∧ drafted.token.NeverFires ∧
      drafted.world.files.IsVacant leisured.descriptorPath ∧
      drafted.world.agent = ⟨.notLoaded, none⟩ ∧
      leisured.Along leisured.IsServed commands drafted ∧
      leisured.observe commands drafted ≠ leisured.trace .notInstalled commands) ∧
    (winding.Faithful id ∧ linked.token.NeverFires ∧
      linked.world.files.IsVacant winding.descriptorPath ∧
      linked.world.agent = ⟨.notLoaded, none⟩ ∧
      winding.Along winding.IsServed commands linked ∧
      winding.observe commands linked ≠ winding.trace .notInstalled commands) ∧
    (restful.Faithful id ∧ (unitsWith []).token.NeverFires ∧
      (unitsWith []).world.files.IsVacant restful.descriptorPath ∧
      (unitsWith []).world.agent = ⟨.notLoaded, none⟩ ∧
      restful.Along restful.WritesInPlace commands (unitsWith []) ∧
      (restful.observe commands (unitsWith [])).map (·.1.isOk) = [true, true, false] ∧
      restful.observe commands (unitsWith []) ≠ restful.trace .notInstalled commands) := by
  intro commands drafted winding linked restful
  have quiet (table : List (Place × Entry)) : (unitsWith table).token.NeverFires := fun _ => rfl
  have missing :
      drafted.world.files.lookupNoFollow leisured.descriptorPath = .error .notFound ∧
        linked.world.files.lookupNoFollow winding.descriptorPath = .error .notFound ∧
        (unitsWith []).world.files.lookupNoFollow restful.descriptorPath = .error .notFound := by
    decide +kernel
  have served : leisured.Along leisured.IsServed commands drafted ∧
      winding.Along winding.IsServed commands linked ∧
      restful.Along restful.WritesInPlace commands (unitsWith []) := by
    decide +kernel
  have shown :
      (leisured.observe commands drafted).map (·.1.isOk) = [true, false, false] ∧
        (winding.observe commands linked).map (·.1.isOk) = [true, false, false] ∧
        (restful.observe commands (unitsWith [])).map (·.1.isOk) = [true, true, false] := by
    decide +kernel
  have expected (controller : Controller Hold) :
      (controller.trace .notInstalled commands).map (·.1.isOk) = [true, true, true] := rfl
  refine ⟨⟨leisured_faithful, quiet _, FileSystem.isVacant_of_error missing.1, rfl, served.1, ?_⟩,
    ⟨unhurried_faithful _ _, quiet _, FileSystem.isVacant_of_error missing.2.1, rfl, served.2.1, ?_⟩,
    unhurried_faithful _ _, quiet _, FileSystem.isVacant_of_error missing.2.2, rfl, served.2.2,
    shown.2.2, ?_⟩
  all_goals
    intro same
    rw [same, expected] at shown
    simp at shown

end Controller

end Steward
