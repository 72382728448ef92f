import Steward.Proofs.Files.Replacing
import Steward.Proofs.Service.Operations
import Steward.Proofs.Session.Polling
import Steward.Proofs.Session.Running

/-!
# Faithful supervisors

A faithful supervisor does what it is asked for and nothing else, though a
start or a stop may take a while.  It is known by a view of its state: what it
lists for the service, and which request is still outstanding.
-/

namespace Steward

variable {α β ε : Type}

/-- A request that may take a while. -/
inductive Wish
  /-- To start the service. -/
  | start
  /-- To stop it. -/
  | stop
  deriving DecidableEq, Repr

/-- What a supervisor has of a service. -/
structure Hold where
  /-- What it lists. -/
  standing : Liveness
  /-- What is outstanding. -/
  wish : Option Wish
  deriving DecidableEq, Repr

/-- What a supervisor may make of a service in time: nothing, or what it was asked for. -/
inductive Hold.Settles : Hold → Hold → Prop
  | still {hold : Hold} : Settles hold hold
  | started {pid : UInt32} : Settles ⟨.loaded, some .start⟩ ⟨.running pid, none⟩
  | stopped {pid : UInt32} : Settles ⟨.running pid, some .stop⟩ ⟨.loaded, none⟩
  | unloaded {pid : UInt32} : Settles ⟨.running pid, some .stop⟩ ⟨.notLoaded, none⟩

namespace Hold.Settles

variable {before between after : Hold}

theorem trans (earlier : Settles before between) (later : Settles between after) :
    Settles before after := by
  cases earlier with
  | still => exact later
  | started =>
    cases later with
    | still => exact .started
  | stopped =>
    cases later with
    | still => exact .stopped
  | unloaded =>
    cases later with
    | still => exact .unloaded

/-- Where nothing is outstanding, nothing happens. -/
theorem eq_of_settled {standing : Liveness} (settles : Settles ⟨standing, none⟩ after) :
    after = ⟨standing, none⟩ := by
  cases settles with
  | still => rfl

/-- A service that was started and has been seen to run runs. -/
theorem running_of_started {answer : Liveness} {pid : UInt32}
    (settled : Settles ⟨.loaded, some .start⟩ before) (onward : Settles before after)
    (told : answer = before.standing ∨ answer = after.standing) (runs : answer = .running pid) :
    after = ⟨.running pid, none⟩ := by
  subst runs
  cases settled with
  | still =>
    cases onward with
    | still => simp at told
    | started =>
      rcases told with told | told
      · cases told
      · rw [told]
  | started =>
    obtain rfl := onward.eq_of_settled
    rcases told with told | told
    · rw [told]
    · rw [told]

/-- A service that was stopped and has been seen not to run does not run. -/
theorem idle_of_stopped {answer : Liveness} {pid : UInt32}
    (settled : Settles ⟨.running pid, some .stop⟩ before) (onward : Settles before after)
    (told : answer = before.standing ∨ answer = after.standing)
    (idle : answer.isRunning = false) :
    ∃ standing : Liveness, standing.isRunning = false ∧ after = ⟨standing, none⟩ := by
  cases settled with
  | still =>
    cases onward with
    | still =>
      obtain rfl | rfl := told <;> cases idle
    | stopped => exact ⟨_, rfl, rfl⟩
    | unloaded => exact ⟨_, rfl, rfl⟩
  | stopped => exact ⟨_, rfl, onward.eq_of_settled⟩
  | unloaded => exact ⟨_, rfl, onward.eq_of_settled⟩

end Hold.Settles

/-- A request that does not fail, fires no token, leaves the object at a path alone, and has an
effect on the service. -/
def Call.Serves (view : α → Hold) (path : Path) (effect : Hold → β → Hold → Prop)
    (request : Call (World α) ToolError β) : Prop :=
  ∀ world, ∃ value, (request world).answer = .ok value ∧ (request world).fired = false ∧
    (request world).world.files.lookupNoFollow path = world.files.lookupNoFollow path ∧
      effect (view world.agent) value (view (request world).world.agent)

/-- A controller whose supervisor is faithful to its service. -/
structure Controller.Faithful (controller : Controller α) (view : α → Hold) : Prop where
  /-- An unknown service that is registered is loaded and does not run. -/
  register : Call.Serves view controller.descriptorPath
    (fun before _ after => before = ⟨.notLoaded, none⟩ → after = ⟨.loaded, none⟩)
    (controller.supervisor.register controller.name controller.descriptorPath)
  /-- A service that is deregistered is unknown, and nothing is outstanding. -/
  deregister : Call.Serves view controller.descriptorPath
    (fun _ _ after => after = ⟨.notLoaded, none⟩)
    (controller.supervisor.deregister controller.name)
  /-- A loaded service that is started runs at once or later. -/
  start : Call.Serves view controller.descriptorPath
    (fun before _ after =>
      before = ⟨.loaded, none⟩ → Hold.Settles ⟨.loaded, some .start⟩ after)
    (controller.supervisor.start controller.name)
  /-- A running service that is stopped runs no more at once or later, and may be unloaded. -/
  stop : Call.Serves view controller.descriptorPath
    (fun before _ after => ∀ pid, before = ⟨.running pid, none⟩ →
      Hold.Settles ⟨.running pid, some .stop⟩ after)
    (controller.supervisor.stop controller.name)
  /-- A query tells what is listed before it or after it. -/
  query : Call.Serves view controller.descriptorPath
    (fun before answer after => Hold.Settles before after ∧
      (answer = before.standing ∨ answer = after.standing))
    (controller.supervisor.query controller.name)

/-! ## Sessions with a faithful supervisor -/

/-- A token that has fired at no instant. -/
def Token.NeverFires (token : Token) : Prop :=
  ∀ instant, token.hasFired instant = false

/-- A session whose token never fires, with what is found at a path and what the supervisor has of
the service. -/
structure Session.Stands (session : Session (World α)) (view : α → Hold) (path : Path)
    (found : Except IoError Entry) (hold : Hold) : Prop where
  /-- The token never fires. -/
  quiet : session.token.NeverFires
  /-- What is found at the path. -/
  descriptor : session.world.files.lookupNoFollow path = found
  /-- What the supervisor has of the service. -/
  held : view session.world.agent = hold

namespace Session.Stands

variable {session : Session (World α)} {view : α → Hold} {path : Path}
  {found : Except IoError Entry} {hold : Hold}

theorem live (stands : session.Stands view path found hold) : session.isCancelled = false :=
  stands.quiet session.now

theorem doesExist {bytes : ByteArray} (stands : session.Stands view path (.ok (.file bytes)) hold) :
    session.world.files.doesExist path = true :=
  FileSystem.doesExist_of_file stands.descriptor

theorem isVacant {failure : IoError} (stands : session.Stands view path (.error failure) hold) :
    session.world.files.IsVacant path :=
  FileSystem.isVacant_of_error stands.descriptor

theorem doesNotExist {failure : IoError} (stands : session.Stands view path (.error failure) hold) :
    session.world.files.doesExist path = false :=
  FileSystem.doesExist_of_isVacant stands.isVacant

/-- A request that serves leaves the session standing. -/
theorem exchange {effect : Hold → β → Hold → Prop} {request : Call (World α) ToolError β}
    (stands : session.Stands view path found hold) (serves : Call.Serves view path effect request) :
    ∃ value after later, session.exchange request = (.ok value, after) ∧
      after.Stands view path found later ∧ effect hold value later := by
  obtain ⟨value, answered, calm, kept, done⟩ := serves session.world
  refine ⟨value, (session.exchange request).2, _, Prod.ext answered rfl, ⟨?_, ?_, rfl⟩, ?_⟩
  · intro instant
    have before := stands.quiet instant
    have same : (session.exchange request).2.token.hasFired instant =
        (session.token.fireIf (request session.world).fired).hasFired instant := rfl
    rw [same, calm]
    simpa [Token.fireIf, Token.hasFired] using before
  · exact kept.trans stands.descriptor
  · rw [stands.held] at done
    exact done

theorem withFiles {files : FileSystem} {other : Except IoError Entry}
    (stands : session.Stands view path found hold) (told : files.lookupNoFollow path = other) :
    (session.withFiles files).Stands view path other hold :=
  ⟨stands.quiet, told, stands.held⟩

theorem rest (stands : session.Stands view path found hold) (span : Nat) :
    (session.rest span).Stands view path found hold :=
  ⟨stands.quiet, stands.descriptor, stands.held⟩

/-- A rest is undisturbed. -/
theorem restFor (stands : session.Stands view path found hold) (span : Nat) :
    ∃ after, session.restFor span = (true, after) ∧ after.Stands view path found hold := by
  have after : (session.restFor span).2.Stands view path found hold :=
    Session.pauseUntil_rests (P := fun later => later.Stands view path found hold)
      (fun later span stands => stands.rest span) _ session stands
  refine ⟨_, Prod.ext ?_ rfl, after⟩
  cases undisturbed : (session.restFor span).1 with
  | true => rfl
  | false =>
    have fired := Session.isCancelled_restFor undisturbed
    rw [after.live] at fired
    cases fired

/-- A pause crashes or is undisturbed. -/
theorem pause (stands : session.Stands view path found hold) (crash : ε) (span : Nat) :
    session.pause crash span = (.error crash, session) ∨
      ∃ after, session.pause crash span = (.ok true, after) ∧
        after.Stands view path found hold := by
  rw [Session.pause_eq]
  split
  · exact .inl rfl
  · obtain ⟨after, rested, standsAfter⟩ := stands.restFor span
    rw [rested]
    exact .inr ⟨after, rfl, standsAfter⟩

end Session.Stands

/-! ## A supervisor that takes its time -/

/-- A request that is answered and obeyed. -/
def Hold.obeying (answer : Hold → β) (step : Hold → Hold) : Call (World Hold) ToolError β :=
  fun world => ⟨.ok (answer world.agent), { world with agent := step world.agent }, 0, false⟩

/-- What is outstanding is done. -/
def Hold.settle : Hold → Hold
  | ⟨.loaded, some .start⟩ => ⟨.running 7, none⟩
  | ⟨.running _, some .stop⟩ => ⟨.notLoaded, none⟩
  | hold => hold

theorem Hold.settles_settle (hold : Hold) : hold.Settles hold.settle := by
  unfold Hold.settle
  split
  · exact .started
  · exact .unloaded
  · exact .still

/-- A supervisor that does what it was asked for after the next query. -/
def leisurely : Supervisor Hold where
  dialect := .systemd
  descriptorPath name := (Path.mk "/units").join (name.text ++ ".service")
  register _ _ := Hold.obeying (fun _ => ()) fun _ => ⟨.loaded, none⟩
  deregister _ := Hold.obeying (fun _ => true) fun _ => ⟨.notLoaded, none⟩
  start _ := Hold.obeying (fun _ => ()) fun hold => ⟨hold.standing, some .start⟩
  stop _ := Hold.obeying (fun _ => ()) fun hold => ⟨hold.standing, some .stop⟩
  query _ := Hold.obeying (·.standing) Hold.settle

namespace Controller

/-- A controller of an agent with that supervisor, which keeps its descriptor at a given path. -/
def unhurried (path : Path) (timings : LifecycleTimings) : Controller Hold where
  supervisor := { leisurely with descriptorPath := fun _ => path }
  name := ⟨"agent"⟩
  timings := timings

theorem unhurried_faithful (path : Path) (timings : LifecycleTimings) :
    (unhurried path timings).Faithful id where
  register world := ⟨(), rfl, rfl, rfl, fun _ => rfl⟩
  deregister world := ⟨true, rfl, rfl, rfl, rfl⟩
  start world := by
    refine ⟨(), rfl, rfl, rfl, fun loaded => ?_⟩
    have loaded : world.agent = ⟨.loaded, none⟩ := loaded
    simp only [unhurried, leisurely, Hold.obeying, id_eq, loaded]
    exact .still
  stop world := by
    refine ⟨(), rfl, rfl, rfl, fun pid running => ?_⟩
    have running : world.agent = ⟨.running pid, none⟩ := running
    simp only [unhurried, leisurely, Hold.obeying, id_eq, running]
    exact .still
  query world := ⟨world.agent.standing, rfl, rfl, rfl, world.agent.settles_settle, .inl rfl⟩

/-- The controller of an agent with that supervisor. -/
def leisured : Controller Hold := ⟨leisurely, ⟨"agent"⟩, ⟨1, 5, 5, 0⟩⟩

theorem leisured_faithful : leisured.Faithful id :=
  have faithful := unhurried_faithful leisured.descriptorPath ⟨1, 5, 5, 0⟩
  ⟨faithful.register, faithful.deregister, faithful.start, faithful.stop, faithful.query⟩

end Controller

end Steward
