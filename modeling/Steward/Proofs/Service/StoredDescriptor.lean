import Steward.Proofs.Files.Drafting
import Steward.Proofs.Service.Lifecycle
import Steward.Proofs.Service.OwnChanges
import Steward.Proofs.Service.Storage

/-!
# The descriptor between operations

An operation that succeeds leaves stored what it is to leave, and one that
fails leaves what was there before; so it is after any operations, one after
another.
-/

namespace Steward

open Relation (ReflTransGen)

variable {α β ε : Type}

namespace Controller

variable {controller : Controller α} {held : Option Descriptor} {torn : Bool}
  {files later : FileSystem}

/-! ## How an operation ends -/

/-- How an operation ends: what is held, or what is to be held once it is done, is stored, a draft
is torn at most where its result allows for it, and every call that loads a descriptor has found
the loaded one whole. -/
def Ends (controller : Controller α) (held done loaded : Option Descriptor)
    (torn : Except ε β → Bool) (first : Session (World (α × Journal SupervisorCall)))
    (left : Except ε β × Session (World (α × Journal SupervisorCall))) : Prop :=
  controller.Stores (match left.1 with | .ok _ => done | .error _ => held) (torn left.1)
      left.2.world.files ∧
    ∃ lines, left.2.journal = first.journal ++ lines ∧
      ∀ line ∈ lines, controller.FindsWhole loaded line

/-- A computation that begins with a descriptor stored ends well, and tears no draft. -/
def Finishes (controller : Controller α) (torn : Bool) (stored held done loaded : Option Descriptor)
    (act : Act (World (α × Journal SupervisorCall)) ε β) : Prop :=
  ∀ first : Session (World (α × Journal SupervisorCall)),
    controller.Stores stored torn first.world.files →
      controller.Ends held done loaded (fun _ => torn) first (act first)

section Endings

variable {stored done loaded : Option Descriptor} {γ : Type} {tears : Except ε β → Bool}
  {first middle : Session (World (α × Journal SupervisorCall))}
  {left : Except ε β × Session (World (α × Journal SupervisorCall))}

/-- An ending without a call. -/
theorem Ends.of_stores
    (stores : controller.Stores (match left.1 with | .ok _ => done | .error _ => held)
      (tears left.1) left.2.world.files)
    (quiet : left.2.journal = first.journal) :
    controller.Ends held done loaded tears first left :=
  ⟨stores, [], by rw [quiet, List.append_nil], nofun⟩

/-- Less is said where a draft may be torn. -/
theorem Ends.mono {wider : Except ε β → Bool}
    (ends : controller.Ends held done loaded tears first left)
    (weaken : tears left.1 = true → wider left.1 = true) :
    controller.Ends held done loaded wider first left :=
  ⟨ends.1.mono weaken, ends.2⟩

/-- Calls before an ending. -/
theorem Ends.after {lines : Journal SupervisorCall}
    (grown : middle.journal = first.journal ++ lines)
    (each : ∀ line ∈ lines, controller.FindsWhole loaded line)
    (ends : controller.Ends held done loaded tears middle left) :
    controller.Ends held done loaded tears first left := by
  rcases ends with ⟨after, more, grownMore, eachMore⟩
  refine ⟨after, lines ++ more, by rw [grownMore, grown, List.append_assoc], ?_⟩
  intro line member
  rcases List.mem_append.1 member with here | there
  · exact each line here
  · exact eachMore line there

/-- What is made of the value makes no difference. -/
theorem Ends.map {act : Act (World (α × Journal SupervisorCall)) ε β} (f : β → γ)
    {tears : Except ε γ → Bool}
    (ends : controller.Ends held done loaded (fun result => tears (result.map f)) first
      (act first)) :
    controller.Ends held done loaded tears first
      ((act >>= fun value => pure (f value) : Act _ ε γ) first) := by
  rw [Act.bind_pure_apply]
  rcases ends with ⟨after, journal⟩
  refine ⟨?_, journal⟩
  cases result : (act first).1 with
  | ok value => simpa [result, Except.map] using after
  | error failure => simpa [result, Except.map] using after

namespace Finishes

theorem pure (value : β) :
    controller.Finishes torn done held done loaded (pure value : Act _ ε β) :=
  fun _ stores => .of_stores stores rfl

theorem of_keeps {act : Act (World (α × Journal SupervisorCall)) ε β}
    (keeps : Act.Keeps (controller.Stores held torn) (controller.FindsWhole held) act) :
    controller.Finishes torn held held held held act := by
  intro first stores
  rcases keeps first stores with ⟨after, lines, grown, each⟩
  refine ⟨?_, lines, grown, each⟩
  cases (act first).1 with
  | ok value => exact after
  | error failure => exact after

theorem bind {act : Act (World (α × Journal SupervisorCall)) ε β}
    {next : β → Act (World (α × Journal SupervisorCall)) ε γ}
    (keeps : Act.Keeps (controller.Stores held torn) (controller.FindsWhole held) act)
    (onward : ∀ value, controller.Finishes torn held held done held (next value)) :
    controller.Finishes torn held held done held (act >>= next) := by
  intro first stores
  have ended := of_keeps keeps first stores
  rw [Act.bind_apply]
  generalize act first = left at ended ⊢
  rcases left with ⟨failure | value, middle⟩
  · exact ended
  · rcases ended with ⟨between, lines, grown, each⟩
    exact (onward value middle between).after grown each

/-- A request that may fail does not end a computation. -/
theorem attempt_bind {note : Except ToolError β → SupervisorCall}
    {request : Call (World α) ToolError β}
    {next : Except ToolError β → Act (World (α × Journal SupervisorCall)) ε γ}
    (spares : Exchange.Spares (controller.Stores stored torn) (controller.FindsWhole loaded) note
      request)
    (onward : ∀ answer, controller.Finishes torn stored held done loaded (next answer)) :
    controller.Finishes torn stored held done loaded
      (Act.attempt (Exchange.recorded note request) >>= next) := by
  intro first stores
  rcases Session.Keeps.exchange spares first stores with ⟨between, lines, grown, each⟩
  rw [Act.bind_apply, Act.attempt_apply]
  exact (onward _ _ between).after grown each

/-- What is done next may depend on the files, in which a descriptor is stored. -/
theorem files_bind {next : FileSystem → Act (World (α × Journal SupervisorCall)) ε β}
    (onward : ∀ files, controller.Stores stored torn files →
      controller.Finishes torn stored held done loaded (next files)) :
    controller.Finishes torn stored held done loaded (Act.files >>= next) :=
  fun first stores => onward first.world.files stores first stores

theorem ite {condition : Prop} [Decidable condition]
    {act other : Act (World (α × Journal SupervisorCall)) ε β}
    (positive : condition → controller.Finishes torn stored held done loaded act)
    (negative : ¬condition → controller.Finishes torn stored held done loaded other) :
    controller.Finishes torn stored held done loaded (if condition then act else other) := by
  by_cases holds : condition
  · rw [if_pos holds]
    exact positive holds
  · rw [if_neg holds]
    exact negative holds

theorem map {act : Act (World (α × Journal SupervisorCall)) ε β} (f : β → γ)
    (finishes : controller.Finishes torn stored held done loaded act) :
    controller.Finishes torn stored held done loaded
      (act >>= fun value => Pure.pure (f value) : Act _ ε γ) :=
  fun first stores => (finishes first stores).map f

end Finishes

end Endings

/-! ## Removing the descriptor -/

/-- A removal that succeeds leaves nothing, and one that fails leaves what is held. -/
theorem clear_finishes :
    controller.Finishes torn held held none held
      (Act.onFiles (ExceptT.adapt (ServiceError.io controller.descriptorPath)
        (FileAct.clear controller.descriptorPath))) := by
  intro first stores
  refine .of_stores ?_ rfl
  rw [Act.onFiles_apply, Session.files_withFiles, FileAct.adapt_apply]
  cases cleared : (FileAct.clear controller.descriptorPath first.world.files).1 with
  | ok _ =>
    have vacant := FileSystem.isVacant_of_clear cleared
    rw [FileAct.clear_apply]
    exact ⟨toOption_eq_none_iff.2 vacant, fun entry stands =>
      stores.draft entry (FileSystem.lookupNoFollow_of_discarded stands)⟩
  | error failure =>
    have unchanged : first.world.files.discarded controller.descriptorPath =
        first.world.files := by
      rw [FileAct.clear_apply] at cleared
      rw [FileSystem.discarded]
      cases removed : first.world.files.remove controller.descriptorPath with
      | ok later => simp [removed] at cleared
      | error failure => rfl
    rw [FileAct.clear_apply, unchanged]
    exact stores

theorem unload_finishes (aloof : controller.IsAloof) :
    controller.Finishes torn held held none held controller.recorded.unload :=
  .attempt_bind (deregister_spares aloof) fun _ => clear_finishes.map _

theorem uninstall_finishes (aloof : controller.IsAloof) :
    controller.Finishes torn held held none held controller.recorded.uninstall := by
  apply Finishes.bind (status_keeps aloof)
  intro state
  apply Finishes.files_bind
  intro files stores
  apply Finishes.ite
  · intro nowhere
    rcases Bool.and_eq_true_iff.1 nowhere with ⟨-, absent⟩
    have present : files.doesExist controller.recorded.descriptorPath = held.isSome :=
      stores.doesExist
    rw [Bool.not_eq_true', present, Option.isSome_eq_false_iff, Option.isNone_iff_eq_none] at absent
    subst absent
    exact .pure _
  · intro _
    apply Finishes.ite
    · exact fun _ => .bind (tryStop_keeps aloof) fun _ => unload_finishes aloof
    · exact fun _ => unload_finishes aloof

/-! ## Writing the descriptor -/

section Writing

variable {operation : Operation} {done loaded : Option Descriptor}
  {first : Session (World (α × Journal SupervisorCall))}

theorem MakesAside.isVacant {path : Path} (aside : controller.MakesAside operation path files)
    (steps : ReflTransGen (FileSystem.MakesDirectory (controller.MayMake operation)) files later)
    (vacant : files.IsVacant path) : later.IsVacant path := by
  rcases steps.cases_head with rfl | ⟨middle, ⟨wanted, -, -⟩, -⟩
  · exact vacant
  · rcases aside _ wanted vacant with ⟨free, -⟩
    exact (FileSystem.Grown.of_steps steps).isVacant free fun other wanted =>
      (aside other wanted vacant).2

/-- What is stored stays where directories are made aside. -/
theorem Stores.grown (stores : controller.Stores held torn files)
    (aside : controller.MakesAside operation controller.descriptorPath files)
    (draftAside : controller.MakesAside operation controller.draftPath files)
    (steps : ReflTransGen (FileSystem.MakesDirectory (controller.MayMake operation)) files later) :
    controller.Stores held torn later := by
  have grown := FileSystem.Grown.of_steps steps
  constructor
  · cases held with
    | none => exact toOption_eq_none_iff.2 (aside.isVacant steps stores.isVacant)
    | some descriptor =>
      exact toOption_eq_some_iff.2 (grown.lookupNoFollow stores.lookupNoFollow)
  · intro entry stands
    cases before : files.lookupNoFollow controller.draftPath with
    | ok other =>
      rw [grown.lookupNoFollow before] at stands
      exact stores.draft entry (before.trans stands)
    | error failure =>
      exact absurd stands (draftAside.isVacant steps (FileSystem.isVacant_of_error before) entry)

/-- An installation may make the directory of the logs that are asked for. -/
theorem build_mayMake (controller : Controller α) (request : InstallRequest) :
    FileAct.Steps (FileSystem.MakesDirectory (controller.MayMake (.command (.install request))))
      request.build :=
  (build_makes request).mono fun _ _ => .mono fun _ => .inl

/-- An installation may make the directory of the descriptor. -/
theorem makeParent_mayMake (controller : Controller α) (request : InstallRequest) :
    FileAct.Steps (FileSystem.MakesDirectory (controller.MayMake (.command (.install request))))
      (Descriptor.makeParent controller.descriptorPath) := by
  unfold Descriptor.makeParent
  cases up : controller.descriptorPath.parent? with
  | none => exact .pure _
  | some parent =>
    have wanted : ∀ made, parent.IsAbove made →
        controller.MayMake (.command (.install request)) made :=
      fun made above => .inr ⟨parent, up, above⟩
    apply FileAct.Steps.adapt
    exact (FileSystem.makeDirectories_makes parent).mono fun _ _ => .mono wanted

/-- Directories are made without a write. -/
theorem mishap?_of_makes {made : Path → Prop}
    (steps : ReflTransGen (FileSystem.MakesDirectory made) files later) :
    later.mishap? = files.mishap? := by
  induction steps with
  | refl => rfl
  | tail _ step inductionHypothesis =>
    cases step with
    | make => exact inductionHypothesis

/-- Putting a descriptor in place where there is none stores it, or leaves none.  The draft is torn
if writing it breaks off. -/
theorem replace_stores {text : String} {done : Option Descriptor}
    (stores : controller.Stores none torn files)
    (entry : done.map controller.entryOf = some (.file text.toUTF8)) :
    match FileAct.replace controller.descriptorPath controller.draftPath text files with
    | (.ok _, later) => controller.Stores done false later ∧
        FileSystem.endsInName controller.descriptorPath = true ∧
          controller.descriptorPath.endsInSlash = false
    | (.error (path, _), later) =>
      controller.Stores none (torn || path == controller.draftPath && files.mishap?.isSome)
        later := by
  have ended := FileSystem.replacement stores.isUnlinked text
  have told : FileAct.replace controller.descriptorPath (controller.descriptorPath.extend ".tmp")
      text files = FileAct.replace controller.descriptorPath controller.draftPath text files := rfl
  rw [told] at ended
  generalize FileAct.replace controller.descriptorPath controller.draftPath text files = left
    at ended ⊢
  cases ended with
  | refused => exact stores.mono fun before => by simp [before]
  | moved moves =>
    refine ⟨⟨?_, fun entry stands => absurd stands (moves.isVacant_draft entry)⟩, moves.named,
      moves.unended⟩
    rw [entry]
    exact toOption_eq_some_iff.2 (moves.lookupNoFollow_of_isUnlinked stores.isVacant.isUnlinked)
  | discarded discards =>
    refine ⟨toOption_eq_none_iff.2 fun entry stands => ?_, fun entry stands => ?_⟩
    · exact stores.isVacant entry (discards.lookupNoFollow_target.1 stands)
    · exact absurd stands (discards.isVacant entry)
  | broken befalls begins =>
    refine ⟨toOption_eq_none_iff.2 fun entry stands => ?_, fun entry stands => ⟨?_, ?_⟩⟩
    · exact stores.isVacant entry (begins.lookupNoFollow_target.1 stands)
    · rw [befalls]
      simp [draftPath]
    · exact ⟨_, Except.ok.inj (stands.symm.trans begins.lookupNoFollow_draft)⟩

/-- Storing a descriptor where there is none stores it, or leaves none. -/
theorem store_ends {result : Except ServiceError Unit} (request : InstallRequest)
    (descriptor : Descriptor)
    (prepared : controller.Stores none torn
      (Descriptor.makeParent controller.descriptorPath files).2)
    (stored : Descriptor.store controller.descriptorPath
      (descriptor.render controller.supervisor.dialect) files = (result, later)) :
    match result with
    | .ok _ => controller.Stores (some descriptor) false later ∧
        FileSystem.endsInName controller.descriptorPath = true ∧
          controller.descriptorPath.endsInSlash = false
    | .error failure => controller.Stores none
        (controller.tornBy (.command (.install request)) files torn
          (.error failure : Except ServiceError Unit)) later := by
  have same := mishap?_of_makes (controller.makeParent_mayMake request files)
  rw [Descriptor.store_eq, FileAct.bind_apply] at stored
  rcases made : Descriptor.makeParent controller.descriptorPath files with ⟨failure | _, between⟩
  · rw [made] at stored prepared
    cases stored
    exact prepared.mono tornBy_error
  · rw [made] at stored prepared same
    have entry : (some descriptor).map controller.entryOf =
        some (.file (descriptor.render controller.supervisor.dialect).toUTF8) := rfl
    have ended := replace_stores prepared entry
    simp only [FileAct.adapt_apply] at stored
    have told : FileAct.replace controller.descriptorPath (controller.descriptorPath.extend ".tmp")
        (descriptor.render controller.supervisor.dialect) between =
          FileAct.replace controller.descriptorPath controller.draftPath
            (descriptor.render controller.supervisor.dialect) between := rfl
    rw [told] at stored
    generalize FileAct.replace controller.descriptorPath controller.draftPath
      (descriptor.render controller.supervisor.dialect) between = left at ended stored
    rcases left with ⟨⟨place, cause⟩ | _, after⟩
    · cases stored
      rw [same] at ended
      exact ended
    · cases stored
      exact ended

/-- A request for another service ends an operation before anything is done. -/
theorem checkRequest_ends {request : InstallRequest} {tears : Except ServiceError β → Bool}
    {next : Unit → Act (World (α × Journal SupervisorCall)) ServiceError β}
    (stores : controller.Stores held torn first.world.files)
    (weaken : ∀ failure, torn = true → tears (.error failure) = true)
    (ends : controller.Ends held done loaded tears first (next () first)) :
    controller.Ends held done loaded tears first
      ((controller.recorded.checkRequest request >>= next) first) := by
  have checked : (∃ failure, controller.recorded.checkRequest request first =
      (.error failure, first)) ∨ controller.recorded.checkRequest request first =
        (.ok (), first) := by
    unfold checkRequest
    split
    · exact .inl ⟨_, rfl⟩
    · exact .inr rfl
  rw [Act.bind_apply]
  rcases checked with ⟨failure, refused⟩ | passed
  · rw [refused]
    exact .of_stores (stores.mono (weaken failure)) rfl
  · rw [passed]
    exact ends

/-- A preview writes no descriptor. -/
theorem preview_ends (request : InstallRequest)
    (stores : controller.Stores held torn first.world.files)
    (aside : controller.MakesAside (.preview request) controller.descriptorPath first.world.files)
    (draftAside : controller.MakesAside (.preview request) controller.draftPath
      first.world.files) :
    controller.Ends held held held (fun _ => torn) first
      (controller.recorded.preview request first) := by
  apply checkRequest_ends stores fun _ before => before
  apply Ends.map
  have kept := stores.grown aside draftAside (build_makes request first.world.files)
  refine .of_stores ?_ rfl
  rw [Act.onFiles_apply]
  cases (request.build first.world.files).1 with
  | ok descriptor => exact kept
  | error failure => exact kept

/-- What is stored is registered, and removed again if that fails. -/
theorem register_finishes (aloof : controller.IsAloof) {descriptor : Descriptor}
    (named : FileSystem.endsInName controller.descriptorPath = true)
    (unended : controller.descriptorPath.endsInSlash = false) :
    controller.Finishes torn (some descriptor) none (some descriptor) (some descriptor)
      (controller.recorded.register >>= fun answer =>
        match answer with
        | .ok () => pure controller.descriptorPath
        | .error cause => do
          Act.onFiles (FileAct.discard controller.descriptorPath)
          throw (controller.recorded.refused "register" cause)) := by
  apply Finishes.attempt_bind (register_spares aloof)
  intro answer
  cases answer with
  | ok _ => exact .pure _
  | error cause =>
    intro later stores
    dsimp only
    rw [Act.bind_apply, Act.onFiles_apply, FileAct.discard_apply]
    have solid : later.world.files.lookupNoFollow controller.descriptorPath ≠
        .ok .directory := by
      simp [stores.lookupNoFollow, entryOf]
    have vacant := FileSystem.isVacant_discarded named unended solid
    exact .of_stores ⟨toOption_eq_none_iff.2 vacant, fun entry stands =>
      stores.draft entry (FileSystem.lookupNoFollow_of_discarded stands)⟩ rfl

/-- An installation finds a descriptor and leaves it, or stores one and has it registered. -/
theorem install_ends (aloof : controller.IsAloof) (request : InstallRequest)
    (stores : controller.Stores held torn first.world.files)
    (aside : controller.MakesAside (.command (.install request)) controller.descriptorPath
      first.world.files)
    (draftAside : controller.MakesAside (.command (.install request)) controller.draftPath
      first.world.files) :
    controller.Ends held (Operation.leaves first.world.files (.command (.install request)) held)
      (Operation.loads first.world.files (.command (.install request)) held)
      (controller.tornBy (.command (.install request)) first.world.files torn) first
      (controller.recorded.install request first) := by
  apply checkRequest_ends stores fun _ => tornBy_error
  rw [Act.bind_apply, Act.files_apply]
  have present : first.world.files.doesExist controller.recorded.descriptorPath = held.isSome :=
    stores.doesExist
  simp only [present]
  cases held with
  | some descriptor => exact .of_stores stores rfl
  | none =>
    simp only [Option.isSome_none, Bool.false_eq_true, if_false]
    rw [Act.bind_apply, Act.onFiles_apply]
    have loads : Operation.loads first.world.files (.command (.install request)) none =
        (request.build first.world.files).1.toOption := rfl
    have leaves : Operation.leaves first.world.files (.command (.install request)) none =
        (request.build first.world.files).1.toOption := rfl
    rw [loads, leaves]
    have steps := controller.build_mayMake request first.world.files
    rcases built : request.build first.world.files with ⟨failure | descriptor, files⟩
    · rw [FileAct.StepsFrom, built] at steps
      exact .of_stores ((stores.grown aside draftAside steps).mono tornBy_error) rfl
    · rw [FileAct.StepsFrom, built] at steps
      have prepared := stores.grown aside draftAside
        (steps.trans (controller.makeParent_mayMake request files))
      dsimp only
      rw [Act.bind_apply, Act.onFiles_apply, Session.files_withFiles]
      rcases stored : Descriptor.store controller.recorded.descriptorPath
        (descriptor.render controller.recorded.supervisor.dialect) files with ⟨failure | _, later⟩
      · have ended : controller.Stores none
            (controller.tornBy (.command (.install request)) files torn
              (.error failure : Except ServiceError Unit)) later :=
          store_ends request descriptor prepared stored
        have same : files.mishap? = first.world.files.mishap? := mishap?_of_makes steps
        rw [tornBy_of_mishap?_eq same, ← tornBy_map _ fun _ => controller.descriptorPath] at ended
        exact .of_stores ended rfl
      · rcases store_ends request descriptor prepared stored with ⟨held, named, unended⟩
        have finished := register_finishes aloof named unended
          ((first.withFiles files).withFiles later) held
        have ended := finished.after (List.append_nil _).symm (List.forall_mem_nil _)
        exact ended.mono fun torn => absurd torn Bool.false_ne_true

/-- An operation ends with what it leaves stored, or with what was stored before. -/
theorem perform_ends (aloof : controller.IsAloof) (operation : Operation)
    (stores : controller.Stores held torn first.world.files)
    (aside : controller.MakesAside operation controller.descriptorPath first.world.files)
    (draftAside : controller.MakesAside operation controller.draftPath first.world.files) :
    controller.Ends held (operation.leaves first.world.files held)
      (operation.loads first.world.files held)
      (controller.tornBy operation first.world.files torn) first
      (controller.recorded.perform operation first) := by
  cases operation with
  | command command =>
    apply Ends.map
    simp only [tornBy_map]
    cases command with
    | install request =>
      apply Ends.map
      simp only [tornBy_map]
      exact install_ends aloof request stores aside draftAside
    | uninstall => exact (uninstall_finishes aloof first stores).map _
    | start => exact (Finishes.of_keeps (start_keeps aloof) first stores).map _
    | stop => exact (Finishes.of_keeps (stop_keeps aloof) first stores).map _
    | restart => exact (Finishes.of_keeps (restart_keeps aloof) first stores).map _
  | status => exact (Finishes.of_keeps (status_keeps aloof) first stores).map _
  | report => exact (Finishes.of_keeps (report_keeps aloof) first stores).map _
  | preview request => exact (preview_ends request stores aside draftAside).map _

end Writing

/-! ## Operation after operation -/

/-- The directories that the operations make bring nothing to the descriptor or the draft. -/
def AllAside (controller : Controller α) (operations : List Operation)
    (session : Session (World α)) : Prop :=
  controller.Throughout (fun operation session =>
    controller.MakesAside operation controller.descriptorPath session.world.files ∧
      controller.MakesAside operation controller.draftPath session.world.files) operations session

theorem StaysStored.stores {operations : List Operation} {session : Session (World α)}
    (stays : controller.StaysStored operations session held torn) :
    controller.Stores held torn session.world.files := by
  cases operations with
  | nil => exact stays
  | cons operation rest => exact stays.1

/-- No directory is ever stored. -/
theorem Stores.ne_directory (stores : controller.Stores held torn files) :
    files.lookupNoFollow controller.descriptorPath ≠ .ok .directory := by
  intro found
  have stands := stores.descriptor
  rw [found] at stands
  cases held with
  | none => simp [Except.toOption] at stands
  | some descriptor => simp [Except.toOption, entryOf] at stands

/-- What is stored to begin with stays stored, or what later operations leave in its place. -/
theorem staysStored_of_stores (aloof : controller.IsAloof) {operations : List Operation}
    {session : Session (World α)} (stores : controller.Stores held torn session.world.files)
    (aside : controller.AllAside operations session) :
    controller.StaysStored operations session held torn := by
  induction operations generalizing session held torn with
  | nil => exact stores
  | cons operation rest inductionHypothesis =>
    rcases aside with ⟨⟨here, draft⟩, later⟩
    rcases @perform_ends _ _ _ _ session.recording aloof operation stores here draft with
      ⟨after, lines, grown, each⟩
    have refined := controller.perform_refines operation session.recording
    rw [Session.recording_through] at refined
    refine ⟨stores, ?_, ?_⟩
    · intro line member
      have begun : (session.recording (κ := SupervisorCall)).journal = [] := rfl
      rw [callsOf, grown, begun, List.nil_append] at member
      exact each line member
    · apply inductionHypothesis _ later
      rw [heldAfter, tornAfter, refined]
      generalize controller.recorded.perform operation session.recording = left at after ⊢
      rcases left with ⟨failure | value, final⟩
      · exact after
      · exact after

theorem leisured_isAloof : leisured.IsAloof where
  descriptor := ⟨fun _ => rfl, fun _ => rfl, fun _ => rfl, fun _ => rfl, fun _ => rfl⟩
  draft := ⟨fun _ => rfl, fun _ => rfl, fun _ => rfl, fun _ => rfl, fun _ => rfl⟩

/-- With a supervisor that leaves the descriptor and the draft alone, and from where neither is,
there is between any operations at the descriptor either nothing or the whole text of the one that
was installed last, and no draft but a torn one, if the directories that are made bring nothing to
either path. -/
theorem staysStored_of_isVacant (controller : Controller α) (aloof : controller.IsAloof)
    (operations : List Operation) (session : Session (World α))
    (vacant : session.world.files.IsVacant controller.descriptorPath)
    (bare : session.world.files.IsVacant controller.draftPath)
    (aside : controller.AllAside operations session) :
    controller.StaysStored operations session none false :=
  staysStored_of_stores aloof
    ⟨toOption_eq_none_iff.2 vacant, fun entry stands => absurd stands (bare entry)⟩ aside

/-- Nothing is brought to a straight path where no links stand, if it names none of the directories
that are made, and names a place where nothing stands. -/
theorem makesAside_of_straight {controller : Controller α} {operation : Operation} {path : Path}
    {files : FileSystem} (unlinked : ∀ place target, files.find? place ≠ some (.link target))
    (straight : path.IsStraight) (absent : files.find? path.named = none)
    (elsewhere : ∀ made, controller.MayMake operation made →
      made.IsStraight ∧ made.named ≠ path.named) :
    controller.MakesAside operation path files := by
  intro made wanted _
  rcases elsewhere made wanted with ⟨straightMade, distinct⟩
  constructor
  · intro place heads
    rw [heads.eq_named unlinked straight]
    exact absent
  · intro place heads headsMade
    rw [headsMade.eq_named unlinked straightMade] at heads
    exact distinct (heads.eq_named unlinked straight)

theorem elsewhere_agentRequest (made : Path)
    (wanted : leisured.MayMake (.command (.install agentRequest)) made) :
    made ∈ [Path.mk "/logs", ⟨"/units"⟩, ⟨"/"⟩] := by
  have closed : ∀ path ∈ [Path.mk "/logs", ⟨"/units"⟩, ⟨"/"⟩], ∀ above ∈ path.parent?,
      above ∈ [Path.mk "/logs", ⟨"/units"⟩, ⟨"/"⟩] := by
    decide
  rcases wanted with lower | ⟨parent, up, lower⟩
  · exact lower.mem (by decide) closed
  · have units : leisured.descriptorPath.parent? = some ⟨"/units"⟩ := by decide +kernel
    cases units.symm.trans up
    exact lower.mem (by decide) closed

theorem staysStored_of_isVacant_leisured :
    let operations : List Operation :=
      [.command (.install agentRequest), .command .start, .report, .command .uninstall]
    let session := unitsWith []
    leisured.IsAloof ∧ session.world.files.IsVacant leisured.descriptorPath ∧
      session.world.files.IsVacant leisured.draftPath ∧
      leisured.AllAside operations session ∧
      leisured.StaysStored operations session none false := by
  intro operations session
  have vacant : session.world.files.IsVacant leisured.descriptorPath :=
    FileSystem.isVacant_of_error rfl
  have bare : session.world.files.IsVacant leisured.draftPath :=
    FileSystem.isVacant_of_error rfl
  have unlinked : ∀ place target, session.world.files.find? place ≠ some (.link target) := by
    intro place target
    by_cases root : place = []
    · simp [root]
    · by_cases units : place = ["units"]
      · simp [session, unitsWith, FileSystem.find?, units]
      · have distinct : (place == ["units"]) = false := beq_eq_false_iff_ne.2 units
        simp [session, unitsWith, FileSystem.find?, root, List.lookup_cons, distinct]
  have aside : leisured.AllAside operations session := by
    have elsewhere : ∀ path : Path, path.named ∉ [["logs"], ["units"], []] → ∀ made,
        leisured.MayMake (.command (.install agentRequest)) made →
          made.IsStraight ∧ made.named ≠ path.named := by
      intro path distinct made wanted
      have straight : ∀ made ∈ [Path.mk "/logs", ⟨"/units"⟩, ⟨"/"⟩],
          made.IsStraight ∧ made.named ∈ [["logs"], ["units"], []] := by
        decide +kernel
      rcases straight made (elsewhere_agentRequest made wanted) with ⟨straight, named⟩
      exact ⟨straight, fun same => distinct (same ▸ named)⟩
    have still : ∀ operation ∈ [Operation.command .start, .report, .command .uninstall],
        ∀ path files, leisured.MakesAside operation path files := by
      simp [MakesAside, MayMake]
    refine ⟨⟨?_, ?_⟩, ⟨still _ (by simp) _ _, still _ (by simp) _ _⟩,
      ⟨still _ (by simp) _ _, still _ (by simp) _ _⟩,
      ⟨still _ (by simp) _ _, still _ (by simp) _ _⟩, trivial⟩
    · exact makesAside_of_straight unlinked (by decide +kernel) (by decide +kernel)
        (elsewhere _ (by decide +kernel))
    · exact makesAside_of_straight unlinked (by decide +kernel) (by decide +kernel)
        (elsewhere _ (by decide +kernel))
  exact ⟨leisured_isAloof, vacant, bare, aside,
    staysStored_of_isVacant leisured leisured_isAloof operations session vacant bare aside⟩

/-- A controller whose descriptor is reached through a directory of the same name. -/
def winding : Controller Hold where
  supervisor := { leisurely with
    descriptorPath := fun name => ⟨"/" ++ name.text ++ ".service/../" ++ name.text ++ ".service"⟩ }
  name := ⟨"agent"⟩
  timings := ⟨1, 5, 5, 0⟩

/-- Where the directory of the descriptor is reached through a directory of the descriptor's name,
an installation makes that one, fails, and leaves it at the descriptor; and where the disk is full,
it leaves the beginning of a draft. -/
theorem not_staysStored :
    let installation := Operation.command (.install agentRequest)
    let full := (unitsWith []).withFiles (unitsWith []).world.files.filled
    (winding.IsAloof ∧ (unitsWith []).world.files.IsVacant winding.descriptorPath ∧
      (unitsWith []).world.files.IsVacant winding.draftPath ∧
      ¬agentRequest.logDirectory.IsAbove winding.descriptorPath ∧
      ¬agentRequest.logDirectory.IsAbove winding.draftPath ∧
      (winding.perform installation (unitsWith [])).2.world.files.lookupNoFollow
        winding.descriptorPath = .ok .directory ∧
      ¬winding.StaysStored [installation] (unitsWith []) none false) ∧
    leisured.IsAloof ∧ full.world.files.IsVacant leisured.descriptorPath ∧
      full.world.files.IsVacant leisured.draftPath ∧
      ¬agentRequest.logDirectory.IsAbove leisured.descriptorPath ∧
      ¬agentRequest.logDirectory.IsAbove leisured.draftPath ∧
      (leisured.perform installation full).2.world.files.lookupNoFollow leisured.draftPath =
        .ok (.file "[Un".toUTF8) := by
  intro installation full
  have missing :
      (unitsWith []).world.files.lookupNoFollow winding.descriptorPath = .error .notFound ∧
        (unitsWith []).world.files.lookupNoFollow winding.draftPath = .error .notFound ∧
        full.world.files.lookupNoFollow leisured.descriptorPath = .error .notFound ∧
        full.world.files.lookupNoFollow leisured.draftPath = .error .notFound := by
    decide +kernel
  have aloof : winding.IsAloof :=
    ⟨⟨fun _ => rfl, fun _ => rfl, fun _ => rfl, fun _ => rfl, fun _ => rfl⟩,
      ⟨fun _ => rfl, fun _ => rfl, fun _ => rfl, fun _ => rfl, fun _ => rfl⟩⟩
  have elsewhere (path : Path) (distinct : path ∉ [Path.mk "/logs", ⟨"/"⟩]) :
      ¬agentRequest.logDirectory.IsAbove path :=
    fun lower => distinct (lower.mem (by decide) (by decide))
  have found : (winding.perform installation (unitsWith [])).2.world.files.lookupNoFollow
      winding.descriptorPath = .ok .directory := by
    decide +kernel
  have torn : (leisured.perform installation full).2.world.files.lookupNoFollow
      leisured.draftPath = .ok (.file "[Un".toUTF8) := by
    decide +kernel
  refine ⟨⟨aloof, FileSystem.isVacant_of_error missing.1,
      FileSystem.isVacant_of_error missing.2.1, elsewhere _ (by decide +kernel),
      elsewhere _ (by decide +kernel), found, ?_⟩,
    leisured_isAloof, FileSystem.isVacant_of_error missing.2.2.1,
    FileSystem.isVacant_of_error missing.2.2.2, elsewhere _ (by decide +kernel),
    elsewhere _ (by decide +kernel), torn⟩
  rintro ⟨-, -, stays⟩
  exact stays.stores.ne_directory found

end Controller

end Steward
