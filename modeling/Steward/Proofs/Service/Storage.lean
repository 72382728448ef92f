import Steward.Proofs.Files.Making
import Steward.Proofs.Files.Replacing
import Steward.Proofs.Service.Journal
import Steward.Proofs.Session.Keeping

/-!
# What stands at the descriptor

Between the operations of a controller there is at its descriptor either
nothing or the whole text of the descriptor that the last installation wrote.
There is no draft beside it, unless the writing of one broke off and no
installation has succeeded since.  An installation that cannot register its
descriptor removes it again, and whatever is registered is there whole.

This takes a supervisor that leaves the descriptor and the draft alone, and
directories that are made elsewhere.
-/

namespace Steward

variable {α β ε : Type}

/-! ## Requests that leave a path alone -/

/-- A request leaves what stands at a path as it is. -/
def Exchange.LeavesAlone (path : Path) (request : Exchange (World α) β) : Prop :=
  ∀ world, ((request world).world.files.lookupNoFollow path).toOption =
    (world.files.lookupNoFollow path).toOption

namespace Controller

/-- The supervisor leaves what stands at a path as it is. -/
structure LeavesAlone (controller : Controller α) (path : Path) : Prop where
  register : Exchange.LeavesAlone path
    (controller.supervisor.register controller.name controller.descriptorPath)
  deregister : Exchange.LeavesAlone path (controller.supervisor.deregister controller.name)
  start : Exchange.LeavesAlone path (controller.supervisor.start controller.name)
  stop : Exchange.LeavesAlone path (controller.supervisor.stop controller.name)
  query : Exchange.LeavesAlone path (controller.supervisor.query controller.name)

/-- The supervisor touches neither the descriptor nor the draft. -/
structure IsAloof (controller : Controller α) : Prop where
  descriptor : controller.LeavesAlone controller.descriptorPath
  draft : controller.LeavesAlone controller.draftPath

/-! ## What is to be there -/

/-- The entry that a stored descriptor is. -/
def entryOf (controller : Controller α) (descriptor : Descriptor) : Entry :=
  .file (descriptor.render controller.supervisor.dialect).toUTF8

/-- At the descriptor is the whole text of the one that is held, or nothing if none is.  There is no
draft, but for a file that may be left of one that is torn. -/
structure Stores (controller : Controller α) (held : Option Descriptor) (torn : Bool)
    (files : FileSystem) : Prop where
  descriptor : (files.lookupNoFollow controller.descriptorPath).toOption =
    held.map controller.entryOf
  draft : ∀ entry, files.lookupNoFollow controller.draftPath = .ok entry →
    torn = true ∧ ∃ bytes, entry = .file bytes

/-- A call that loads a descriptor finds the one that is held, and finds it whole. -/
def FindsWhole (controller : Controller α) (held : Option Descriptor)
    (line : Line SupervisorCall) : Prop :=
  ∀ name path answer, line.call = .register name path answer →
    name = controller.name ∧ path = controller.descriptorPath ∧
      ∃ descriptor, held = some descriptor ∧
        line.before.lookupNoFollow path = .ok (controller.entryOf descriptor)

/-- The descriptor that an operation may have loaded, which an installation builds. -/
def Operation.loads (files : FileSystem) : Operation → Option Descriptor → Option Descriptor
  | .command (.install request), none => (request.build files).1.toOption
  | _, held => held

/-- The descriptor that is there after an operation has succeeded. -/
def Operation.leaves (files : FileSystem) : Operation → Option Descriptor → Option Descriptor
  | .command .uninstall, _ => none
  | operation, held => operation.loads files held

/-- The descriptor that is there after an operation. -/
def heldAfter (controller : Controller α) (operation : Operation) (session : Session (World α))
    (held : Option Descriptor) : Option Descriptor :=
  match (controller.perform operation session).1 with
  | .ok _ => operation.leaves session.world.files held
  | .error _ => held

/-- Whether a draft may be left after an operation, by its result.  An installation that succeeds
leaves none; one that cannot write its draft because that write breaks off leaves what it has
written. -/
def tornBy (controller : Controller α) (operation : Operation) (files : FileSystem) (torn : Bool)
    (result : Except ServiceError β) : Bool :=
  match operation, result with
  | .command (.install _), .ok _ => false
  | .command (.install _), .error (.io path _) =>
    torn || path == controller.draftPath && files.mishap?.isSome
  | _, _ => torn

/-- Whether a draft may be left after an operation. -/
def tornAfter (controller : Controller α) (operation : Operation) (session : Session (World α))
    (torn : Bool) : Bool :=
  controller.tornBy operation session.world.files torn (controller.perform operation session).1

/-- The calls of an operation. -/
def callsOf (controller : Controller α) (operation : Operation) (session : Session (World α)) :
    Journal SupervisorCall :=
  (controller.recorded.perform operation session.recording).2.journal

/-- Between the operations what is held is stored, and whatever is loaded is found whole. -/
def StaysStored (controller : Controller α) :
    List Operation → Session (World α) → Option Descriptor → Bool → Prop
  | [], session, held, torn => controller.Stores held torn session.world.files
  | operation :: rest, session, held, torn =>
    controller.Stores held torn session.world.files ∧
      (∀ line ∈ controller.callsOf operation session,
        controller.FindsWhole (operation.loads session.world.files held) line) ∧
      controller.StaysStored rest (controller.perform operation session).2
        (controller.heldAfter operation session held)
        (controller.tornAfter operation session torn)

/-- What holds of every operation and the session it is asked for in. -/
def Throughout (controller : Controller α) (holds : Operation → Session (World α) → Prop) :
    List Operation → Session (World α) → Prop
  | [], _ => True
  | operation :: rest, session =>
    holds operation session ∧
      controller.Throughout holds rest (controller.perform operation session).2

instance decidableThroughout (controller : Controller α)
    (holds : Operation → Session (World α) → Prop)
    [∀ operation session, Decidable (holds operation session)] :
    ∀ operations session, Decidable (controller.Throughout holds operations session)
  | [], _ => .isTrue trivial
  | operation :: rest, session =>
    have := decidableThroughout controller holds rest (controller.perform operation session).2
    inferInstanceAs (Decidable (holds operation session ∧ _))

/-- The directories that an operation makes where they are missing. -/
def MayMake (controller : Controller α) : Operation → Path → Prop
  | .command (.install request), path =>
    request.logDirectory.IsAbove path ∨
      ∃ parent, controller.descriptorPath.parent? = some parent ∧ parent.IsAbove path
  | .preview request, path => request.logDirectory.IsAbove path
  | _, _ => False

/-- No directory that an operation may make brings anything to a path that leads to nothing: nothing
stands where the path heads, and the directory is not made there. -/
def MakesAside (controller : Controller α) (operation : Operation) (path : Path)
    (files : FileSystem) : Prop :=
  ∀ made, controller.MayMake operation made → files.IsVacant path →
    files.IsFree path ∧ files.AreApart path made

/-! ## Operations that change no files -/

theorem toOption_eq_none_iff {files : FileSystem} {path : Path} :
    (files.lookupNoFollow path).toOption = none ↔ files.IsVacant path := by
  rw [FileSystem.IsVacant]
  cases files.lookupNoFollow path <;> simp [Except.toOption]

theorem toOption_eq_some_iff {files : FileSystem} {path : Path} {entry : Entry} :
    (files.lookupNoFollow path).toOption = some entry ↔
      files.lookupNoFollow path = .ok entry := by
  cases files.lookupNoFollow path <;> simp [Except.toOption]

variable {controller : Controller α} {held : Option Descriptor} {torn : Bool}
  {descriptor : Descriptor} {files later : FileSystem}

theorem Stores.isVacant (stores : controller.Stores none torn files) :
    files.IsVacant controller.descriptorPath :=
  toOption_eq_none_iff.1 stores.descriptor

theorem Stores.lookupNoFollow (stores : controller.Stores (some descriptor) torn files) :
    files.lookupNoFollow controller.descriptorPath = .ok (controller.entryOf descriptor) :=
  toOption_eq_some_iff.1 stores.descriptor

theorem Stores.doesExist (stores : controller.Stores held torn files) :
    files.doesExist controller.descriptorPath = held.isSome := by
  cases held with
  | none => exact FileSystem.doesExist_of_isVacant stores.isVacant
  | some descriptor => exact FileSystem.doesExist_of_file stores.lookupNoFollow

/-- No link stands at the draft. -/
theorem Stores.isUnlinked (stores : controller.Stores held torn files) :
    files.IsUnlinked controller.draftPath := by
  intro target link
  obtain ⟨-, bytes, same⟩ := stores.draft _ link
  cases same

/-- What is stored stays where the descriptor is not touched and nothing is brought to the draft. -/
theorem Stores.of_descriptor (stores : controller.Stores held torn files)
    (descriptor : (later.lookupNoFollow controller.descriptorPath).toOption =
      (files.lookupNoFollow controller.descriptorPath).toOption)
    (draft : ∀ entry, later.lookupNoFollow controller.draftPath = .ok entry →
      files.lookupNoFollow controller.draftPath = .ok entry) :
    controller.Stores held torn later where
  descriptor := descriptor.trans stores.descriptor
  draft := fun entry stands => stores.draft entry (draft entry stands)

/-- What is stored stays where neither path is touched. -/
theorem Stores.of_untouched (stores : controller.Stores held torn files)
    (descriptor : (later.lookupNoFollow controller.descriptorPath).toOption =
      (files.lookupNoFollow controller.descriptorPath).toOption)
    (draft : (later.lookupNoFollow controller.draftPath).toOption =
      (files.lookupNoFollow controller.draftPath).toOption) : controller.Stores held torn later :=
  stores.of_descriptor descriptor fun _ stands =>
    toOption_eq_some_iff.1 (draft.symm.trans (toOption_eq_some_iff.2 stands))

/-- A draft that may be left is not gone because an operation has failed. -/
theorem tornBy_error {operation : Operation} {failure : ServiceError} (before : torn = true) :
    controller.tornBy operation files torn (.error failure : Except ServiceError β) = true := by
  subst before
  cases operation with
  | command command =>
    cases command with
    | install request => cases failure <;> rfl
    | _ => rfl
  | _ => rfl

theorem tornBy_map {γ : Type} (operation : Operation) (f : β → γ)
    (result : Except ServiceError β) :
    controller.tornBy operation files torn (result.map f) =
      controller.tornBy operation files torn result := by
  cases operation with
  | command command =>
    cases command with
    | install request =>
      cases result with
      | ok value => rfl
      | error failure => cases failure <;> rfl
    | _ => cases result <;> rfl
  | _ => cases result <;> rfl

/-- Of the files only what befalls the next write makes a difference. -/
theorem tornBy_of_mishap?_eq {later : FileSystem} (same : later.mishap? = files.mishap?)
    (operation : Operation) (result : Except ServiceError β) :
    controller.tornBy operation later torn result =
      controller.tornBy operation files torn result := by
  unfold tornBy
  rw [same]

/-- Less is said where a draft may be torn. -/
theorem Stores.mono {wider : Bool} (stores : controller.Stores held torn files)
    (weaken : torn = true → wider = true) : controller.Stores held wider files where
  descriptor := stores.descriptor
  draft := fun entry stands => ⟨weaken (stores.draft entry stands).1, (stores.draft entry stands).2⟩

/-- A request that is no registration and touches neither path spares what is stored. -/
theorem spares_of_leavesAlone {request : Exchange (World α) β} {note : β → SupervisorCall}
    (descriptor : Exchange.LeavesAlone controller.descriptorPath request)
    (draft : Exchange.LeavesAlone controller.draftPath request)
    (other : ∀ answer name path result, note answer ≠ .register name path result) :
    Exchange.Spares (controller.Stores held torn) (controller.FindsWhole held) note request := by
  intro world stores
  constructor
  · exact stores.of_untouched (descriptor world) (draft world)
  · intro name path answer called
    exact absurd called (other _ _ _ _)

section Aloof

variable (aloof : controller.IsAloof)
include aloof

theorem query_spares :
    Exchange.Spares (controller.Stores held torn) (controller.FindsWhole held)
      (SupervisorCall.query controller.name) (controller.supervisor.query controller.name) :=
  spares_of_leavesAlone aloof.descriptor.query aloof.draft.query nofun

theorem start_spares :
    Exchange.Spares (controller.Stores held torn) (controller.FindsWhole held)
      (SupervisorCall.start controller.name) (controller.supervisor.start controller.name) :=
  spares_of_leavesAlone aloof.descriptor.start aloof.draft.start nofun

theorem stop_spares :
    Exchange.Spares (controller.Stores held torn) (controller.FindsWhole held)
      (SupervisorCall.stop controller.name) (controller.supervisor.stop controller.name) :=
  spares_of_leavesAlone aloof.descriptor.stop aloof.draft.stop nofun

theorem deregister_spares :
    Exchange.Spares (controller.Stores held torn) (controller.FindsWhole held)
      (SupervisorCall.deregister controller.name)
      (controller.supervisor.deregister controller.name) :=
  spares_of_leavesAlone aloof.descriptor.deregister aloof.draft.deregister nofun

/-- What is registered is the descriptor that is held. -/
theorem register_spares :
    Exchange.Spares (controller.Stores (some descriptor) torn)
      (controller.FindsWhole (some descriptor))
      (SupervisorCall.register controller.name controller.descriptorPath)
      (controller.supervisor.register controller.name controller.descriptorPath) := by
  intro world stores
  constructor
  · exact stores.of_untouched (aloof.descriptor.register world) (aloof.draft.register world)
  · intro name path answer called
    cases called
    exact ⟨rfl, rfl, descriptor, rfl, stores.lookupNoFollow⟩

theorem probe_keeps (wanted : Liveness → Option β) (attempt : UInt32)
    (session : Session (World (α × Journal SupervisorCall))) :
    session.Keeps (controller.Stores held torn) (controller.FindsWhole held)
      (session.exchange (controller.recorded.probe wanted attempt)).2 := by
  rw [probe_eq, Session.exchange_map]
  exact .exchange (query_spares aloof) session

theorem awaitRunning_keeps :
    Act.Keeps (controller.Stores held torn) (controller.FindsWhole held)
      controller.recorded.awaitRunning := by
  apply Act.Keeps.bind (.poll (probe_keeps aloof runningPid) _ _)
  intro outcome
  cases outcome with
  | ready pid => exact .pure _
  | timedOut attempts elapsed => exact .throw _
  | cancelled attempts => exact .throw _

theorem awaitStopped_keeps :
    Act.Keeps (controller.Stores held torn) (controller.FindsWhole held)
      controller.recorded.awaitStopped := by
  apply Act.Keeps.bind (.poll (probe_keeps aloof stopped) _ _)
  intro outcome
  cases outcome with
  | ready _ => exact .pure _
  | timedOut attempts elapsed => exact .throw _
  | cancelled attempts => exact .throw _

omit aloof in
theorem checkToken_keeps (operation : String) :
    Act.Keeps (controller.Stores held torn) (controller.FindsWhole held)
      (controller.recorded.checkToken operation) :=
  .bind .isCancelled fun _ => .ite (.throw _) (.pure _)

theorem report_keeps :
    Act.Keeps (controller.Stores held torn) (controller.FindsWhole held)
      (controller.recorded.report (ε := ε)) :=
  .files_bind fun _ _ => .bind (.attempt (query_spares aloof)) fun _ => .pure _

theorem status_keeps :
    Act.Keeps (controller.Stores held torn) (controller.FindsWhole held)
      (controller.recorded.status (ε := ε)) :=
  .bind (report_keeps aloof) fun _ => .pure _

/-- A launch registers only what is held. -/
theorem launch_keeps (known : Except ToolError Liveness) :
    Act.Keeps (controller.Stores (some descriptor) torn) (controller.FindsWhole (some descriptor))
      (controller.recorded.launch known) := by
  have started : Act.Keeps (controller.Stores (some descriptor) torn)
      (controller.FindsWhole (some descriptor))
      (controller.recorded.launch (.ok .loaded)) := by
    apply Act.Keeps.bind (.attempt (start_spares aloof))
    intro answer
    cases answer with
    | ok _ => exact awaitRunning_keeps aloof
    | error cause => exact .throw _
  cases known with
  | error _ => exact started
  | ok liveness =>
    cases liveness with
    | notLoaded =>
      apply Act.Keeps.bind (.attempt (register_spares aloof))
      intro answer
      cases answer with
      | ok _ => exact started
      | error cause => exact .throw _
    | loaded => exact started
    | running _ => exact started

/-- A start that finds no descriptor asks for nothing. -/
theorem start_keeps :
    Act.Keeps (controller.Stores held torn) (controller.FindsWhole held)
      controller.recorded.start := by
  apply Act.Keeps.bind (checkToken_keeps _)
  intro _
  apply Act.Keeps.files_bind
  intro files stores
  have present : files.doesExist controller.recorded.descriptorPath = held.isSome :=
    stores.doesExist
  cases held with
  | none =>
    rw [present]
    exact .throw _
  | some descriptor =>
    rw [present]
    apply Act.Keeps.bind (.attempt (query_spares aloof))
    intro answer
    match answer with
    | .ok (.running _) => exact .pure _
    | .ok .loaded => exact launch_keeps aloof _
    | .ok .notLoaded => exact launch_keeps aloof _
    | .error _ => exact launch_keeps aloof _

theorem stop_keeps :
    Act.Keeps (controller.Stores held torn) (controller.FindsWhole held)
      controller.recorded.stop := by
  have halted : Act.Keeps (controller.Stores held torn) (controller.FindsWhole held)
      controller.recorded.halt := by
    apply Act.Keeps.bind (.attempt (stop_spares aloof))
    intro answer
    cases answer with
    | ok _ => exact awaitStopped_keeps aloof
    | error cause => exact .throw _
  apply Act.Keeps.bind (checkToken_keeps _)
  intro _
  apply Act.Keeps.bind (.attempt (query_spares aloof))
  intro answer
  cases answer with
  | error cause => exact .throw _
  | ok liveness => exact .ite halted (.pure _)

theorem tryStop_keeps :
    Act.Keeps (controller.Stores held torn) (controller.FindsWhole held)
      controller.recorded.tryStop := by
  apply Act.Keeps.bind (.outcome (stop_keeps aloof))
  intro result
  cases result with
  | ok _ => exact .pure _
  | error failure => exact .ite (.throw _) (.pure _)

theorem restart_keeps :
    Act.Keeps (controller.Stores held torn) (controller.FindsWhole held)
      controller.recorded.restart := by
  apply Act.Keeps.bind (stop_keeps aloof)
  intro _
  apply Act.Keeps.bind (.pause _ _)
  intro undisturbed
  cases undisturbed with
  | false => exact .throw _
  | true => exact .bind (start_keeps aloof) fun _ => .pure _

end Aloof

end Controller

end Steward
