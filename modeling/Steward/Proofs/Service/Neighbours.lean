import Steward.Proofs.Service.Confinement
import Steward.Proofs.Service.Lifecycle
import Steward.Proofs.Service.Storage

/-!
# The descriptors of other services

The services of one supervisor have their descriptors in one directory, each as
its name with the ending of the layout, and a draft is the descriptor's name
with another ending.  Neither the descriptor nor the draft of a service has the
name of another's descriptor, however the two names are spelled.  So what a
controller moves and removes is never the descriptor of another service, and it
writes there only where a link at its draft leads there.
-/

namespace Steward

variable {α : Type}

namespace Layout

/-- No draft has the name of a descriptor. -/
theorem IsEnding.draft_ne_file {ending : String} (isEnding : IsEnding ending)
    (front name : String) : front ++ ".tmp" ≠ name ++ ending := by
  intro same
  have last : (front ++ ".tmp").toList.getLast? = some 'p' := by simp
  have nonempty : ending.toList.getLast?.isSome := by
    rw [List.getLast?_isSome]
    intro blank
    simpa [blank] using isEnding.long
  rw [same, String.toList_append, List.getLast?_append, Option.or_of_isSome nonempty] at last
  exact isEnding.undrafted last

section Keeps

variable {home directory : Path} {file : ServiceName → Path} {name : ServiceName}
  (keeps : Keeps home file directory) (valid : name.isValid = true)
include keeps valid

theorem Keeps.parent?_file : (file name).parent? = some directory := by
  obtain ⟨ending, isEnding, same⟩ := keeps.file_under
  have plain := ServiceName.unslashed_of_isValid valid
  rw [same name plain]
  exact Path.parent?_under keeps.isFolder.written keeps.isFolder.ends
    (plain.append isEnding.unslashed) (isLong_append _ isEnding.long).said

theorem Keeps.isInside {files : FileSystem} {place : Place}
    (resolved : files.resolveTarget (file name) = .ok place) : files.IsInside directory place := by
  obtain ⟨ending, isEnding, same⟩ := keeps.file_under
  have plain := ServiceName.unslashed_of_isValid valid
  have long := isLong_append name.text isEnding.long
  rw [same name plain] at resolved
  exact FileSystem.isInside_of_resolveTarget keeps.isFolder.written
    (plain.append isEnding.unslashed) long.spoken long.downward resolved

end Keeps

/-- Descriptors with the same name are those of one service. -/
theorem file_injective (ending : String) :
    Function.Injective fun name : ServiceName => name.text ++ ending := by
  rintro ⟨name⟩ ⟨other⟩ same
  have letters := congrArg String.toList same
  simp only [String.toList_append, List.append_left_inj] at letters
  rw [String.toList_injective letters]

end Layout

instance (files : FileSystem) (path : Path) (place : Place) :
    Decidable (files.resolve path = .ok place) :=
  match files.resolve path with
  | .ok reached => decidable_of_iff (reached = place) ⟨congrArg Except.ok, Except.ok.inj⟩
  | .error _ => .isFalse nofun

namespace Controller

/-! ## Places apart -/

/-- Whatever the files, neither the descriptor of a controller nor its draft is at a place. -/
structure IsApart (controller : Controller α) (place : Place) : Prop where
  descriptor (files : FileSystem) : files.resolveTarget controller.descriptorPath ≠ .ok place
  draft (files : FileSystem) : files.resolveTarget controller.draftPath ≠ .ok place

/-- A change by a controller that leaves alone what stands at a place. -/
structure SparesAt (controller : Controller α) (logs : Path → Prop) (place : Place)
    (files later : FileSystem) : Prop where
  own : OwnChange controller logs files later
  spares (entry : Entry) (found : files.find? place = some entry) : later.find? place = some entry

/-- Where `install` comes to write its draft, the draft does not lead to a place. -/
def WritesAside (controller : Controller α) (place : Place) (operation : Operation)
    (session : Session (World α)) : Prop :=
  ∀ request, operation = .command (.install request) →
    session.world.files.doesExist controller.descriptorPath = false →
      (controller.prepare request session.world.files).2.resolve controller.draftPath ≠ .ok place

instance (controller : Controller α) (place : Place) (operation : Operation)
    (session : Session (World α)) : Decidable (controller.WritesAside place operation session) :=
  match operation with
  | .command (.install request) =>
    decidable_of_iff (session.world.files.doesExist controller.descriptorPath = false →
      (controller.prepare request session.world.files).2.resolve controller.draftPath ≠ .ok place)
      ⟨fun aside _ same => (Command.install.inj (Operation.command.inj same)) ▸ aside,
        fun aside => aside request rfl⟩
  | .command .uninstall | .command .start | .command .stop | .command .restart => .isTrue nofun
  | .status | .report | .preview _ => .isTrue nofun

variable {controller : Controller α} {logs : Path → Prop} {home directory : Path} {place : Place}
  {files : FileSystem}

/-- Under a valid name neither the descriptor nor the draft is where the descriptor of another
valid name is. -/
theorem isApart_of_ne
    (keeps : Layout.Keeps home controller.supervisor.descriptorPath directory)
    (valid : controller.name.isValid = true) {other : ServiceName}
    (validOther : other.isValid = true) (distinct : other ≠ controller.name)
    (stands : files.resolveTarget (controller.supervisor.descriptorPath other) = .ok place) :
    controller.IsApart place := by
  obtain ⟨ending, isEnding, same⟩ := keeps.file_under
  have written := keeps.isFolder.written
  -- A place under a name in the directory tells the name.
  have told {name : String} {files : FileSystem} (unslashed : Unslashed name) (long : IsLong name)
      (resolved : files.resolveTarget (directory.under name) = .ok place) :
      place.getLast? = some name :=
    FileSystem.getLast?_of_resolveTarget written unslashed long.spoken long.downward resolved
  have plain := ServiceName.unslashed_of_isValid valid
  have plainOther := ServiceName.unslashed_of_isValid validOther
  have file : Unslashed (controller.name.text ++ ending) := plain.append isEnding.unslashed
  have descriptor : controller.descriptorPath = directory.under (controller.name.text ++ ending) :=
    same controller.name plain
  rw [same other plainOther] at stands
  have final : place.getLast? = some (other.text ++ ending) :=
    told (plainOther.append isEnding.unslashed) (isLong_append _ isEnding.long) stands
  constructor
  · intro files resolved
    rw [descriptor] at resolved
    have mine := told file (isLong_append _ isEnding.long) resolved
    rw [final] at mine
    exact distinct (Layout.file_injective ending (Option.some.inj mine))
  · intro files resolved
    rw [draftPath, descriptor, Path.extend_under] at resolved
    have mine := told (file.append (by decide)) (isLong_append _ (by decide)) resolved
    rw [final] at mine
    exact isEnding.draft_ne_file _ _ (Option.some.inj mine).symm

/-! ## Changes that spare a place -/

/-- What is at a place apart stays, whatever a controller makes, moves or removes. -/
theorem IsApart.allows (apart : controller.IsApart place) :
    Allows controller logs (SparesAt controller logs place) where
  directory {files _ _} valid makes resolved absent := by
    refine ⟨.directory valid makes resolved absent, fun entry found => ?_⟩
    rw [FileSystem.find?_put_of_ne]
    · exact found
    · rintro rfl
      simp [absent] at found
  move {files old new _} valid source target stood := by
    refine ⟨.move valid source target stood, fun entry found => ?_⟩
    have fromElsewhere : place ≠ old := by
      rintro rfl
      exact apart.draft files source
    have toElsewhere : place ≠ new := by
      rintro rfl
      exact apart.descriptor files target
    rw [FileSystem.find?_put_of_ne _ _ toElsewhere, FileSystem.find?_without_of_ne _ fromElsewhere]
    exact found
  discard {files _} valid resolved := by
    refine ⟨.discard valid resolved, fun entry found => ?_⟩
    rw [FileSystem.find?_without_of_ne]
    · exact found
    · rintro rfl
      exact apart.draft files resolved
  remove {files _} resolved := by
    refine ⟨.remove resolved, fun entry found => ?_⟩
    rw [FileSystem.find?_without_of_ne]
    · exact found
    · rintro rfl
      exact apart.descriptor files resolved

/-- A draft that does not lead to a place is written elsewhere. -/
theorem allowsDraft_sparesAt (aside : files.resolve controller.draftPath ≠ .ok place) :
    controller.AllowsDraft (SparesAt controller logs place) files := by
  intro written bytes valid resolved
  refine ⟨.draft valid resolved, fun entry found => ?_⟩
  rw [FileSystem.find?_spent, FileSystem.find?_put_of_ne]
  · exact found
  · rintro rfl
    exact aside resolved

/-- Between its calls a controller spares a place apart, if its drafts do not lead there. -/
theorem performAll_sparesAt (apart : controller.IsApart place) (operations : List Operation)
    (wanted : ∀ operation ∈ operations, ∀ path, operation.Wants path → logs path)
    (session : Session (World (α × Journal SupervisorCall)))
    (aside : controller.Throughout (controller.WritesAside place) operations
      (session.through World.unrecorded)) :
    session.Gaps (SparesAt controller logs place)
      (controller.recorded.performAll operations session) := by
  induction operations generalizing session with
  | nil => exact .refl session
  | cons operation rest inductionHypothesis =>
    obtain ⟨here, onward⟩ := aside
    have first : session.Gaps (SparesAt controller logs place)
        (controller.recorded.perform operation session).2 :=
      perform_gaps apart.allows operation (wanted operation List.mem_cons_self) session
        fun request same absent => allowsDraft_sparesAt (here request same absent)
    rw [controller.perform_refines operation session] at onward
    exact first.trans (inductionHypothesis
      (fun other member => wanted other (List.mem_cons_of_mem operation member)) _ onward)

/-! ## Among neighbours -/

/-- The controller of the agent whose units are below `/home`. -/
def atHomeLeisured : Controller Hold :=
  { leisured with supervisor := { leisurely with descriptorPath := Layout.unit ⟨"/home"⟩ } }

/-- A service whose name is that of the draft of the agent. -/
def draftlike : ServiceName :=
  ⟨"agent.service.tmp"⟩

/-- Where the descriptor of that service is. -/
def draftlikePlace : Place :=
  ["home", ".config", "systemd", "user", "agent.service.tmp.service"]

/-- A home with the descriptor of that service, and with the given objects. -/
def besideDraftlike (table : List (Place × Entry)) : Session (World Hold) :=
  unitsWith ([(["home"], .directory), (["home", ".config"], .directory),
    (["home", ".config", "systemd"], .directory),
    (["home", ".config", "systemd", "user"], .directory),
    (draftlikePlace, .file "keep".toUTF8)] ++ table)

/-- Whatever a controller with a valid name is asked for, the descriptor of another service stays as
it is at every moment, as long as no call touches it and no link at the draft leads there: before
and after every change by the controller and every call.  And every descriptor is directly inside
the directory of the descriptors. -/
theorem performAll_spares_neighbour (controller : Controller α)
    (keeps : Layout.Keeps home controller.supervisor.descriptorPath directory)
    (valid : controller.name.isValid = true) {other : ServiceName}
    (validOther : other.isValid = true) (distinct : other ≠ controller.name)
    (operations : List Operation) (session : Session (World α)) {entry : Entry}
    (stands : session.world.files.resolveTarget (controller.supervisor.descriptorPath other) =
      .ok place)
    (found : session.world.files.find? place = some entry)
    (aside : controller.Throughout (controller.WritesAside place) operations session)
    (calls : ∀ line ∈ (controller.recorded.performAll operations session.recording).journal,
      line.before.find? place = some entry → line.after.find? place = some entry) :
    let recorded := controller.recorded.performAll operations session.recording
    controller.performAll operations session = recorded.through World.unrecorded ∧
      session.recording.Gaps (fun files later =>
        OwnChange controller (Wanted operations) files later ∧
          files.find? place = some entry ∧ later.find? place = some entry) recorded ∧
      (∀ line ∈ recorded.journal,
        line.before.find? place = some entry ∧ line.after.find? place = some entry) ∧
      (controller.performAll operations session).world.files.find? place = some entry ∧
      ∀ name : ServiceName, name.isValid = true →
        (controller.supervisor.descriptorPath name).parent? = some directory ∧
          ∀ (files : FileSystem) (place : Place),
            files.resolveTarget (controller.supervisor.descriptorPath name) = .ok place →
              files.IsInside directory place := by
  intro recorded
  have apart : controller.IsApart place := isApart_of_ne keeps valid validOther distinct stands
  have spared : session.recording.Gaps (SparesAt controller (Wanted operations) place) recorded :=
    performAll_sparesAt apart operations (fun operation member _ wants =>
      ⟨operation, member, wants⟩) session.recording aside
  obtain ⟨between, called, final⟩ := spared.of_recording.holds
    (fun _ _ change => change.spares entry) calls found
  have same : controller.performAll operations session = recorded.through World.unrecorded :=
    controller.performAll_through operations session.recording
  refine ⟨same, ?_, called, by rw [same]; exact final, ?_⟩
  · refine ⟨recorded.journal, rfl, between.mono fun files later change => ?_⟩
    exact ⟨change.1.own, change.2⟩
  · exact fun name validName => ⟨keeps.parent?_file validName, fun _ _ => keeps.isInside validName⟩

theorem performAll_spares_neighbour_draftlike :
    let operations : List Operation :=
      [.command (.install agentRequest), .command .start, .command .uninstall, .report]
    let session := besideDraftlike []
    let later := atHomeLeisured.performAll operations session
    atHomeLeisured.name.isValid = true ∧ draftlike.isValid = true ∧
      draftlike ≠ atHomeLeisured.name ∧
      atHomeLeisured.Throughout (atHomeLeisured.WritesAside draftlikePlace) operations session ∧
      later.world.files.doesExist atHomeLeisured.descriptorPath = false ∧
      later.world.files.find? draftlikePlace = some (.file "keep".toUTF8) := by
  intro operations session later
  have stands : session.world.files.resolveTarget
      (atHomeLeisured.supervisor.descriptorPath draftlike) = .ok draftlikePlace := by rfl
  have found : session.world.files.find? draftlikePlace = some (.file "keep".toUTF8) := by
    decide +kernel
  have aside :
      atHomeLeisured.Throughout (atHomeLeisured.WritesAside draftlikePlace) operations session := by
    decide +kernel
  have calls :
      ∀ line ∈ (atHomeLeisured.recorded.performAll operations session.recording).journal,
        line.before.find? draftlikePlace = some (.file "keep".toUTF8) →
          line.after.find? draftlikePlace = some (.file "keep".toUTF8) := by
    decide +kernel
  have valid : atHomeLeisured.name.isValid = true := by decide
  have validOther : draftlike.isValid = true := by decide
  have distinct : draftlike ≠ atHomeLeisured.name := by decide
  obtain ⟨-, -, -, final, -⟩ := performAll_spares_neighbour atHomeLeisured .systemdUser valid
    validOther distinct operations session stands found aside calls
  exact ⟨valid, validOther, distinct, aside, by decide +kernel, final⟩

/-- Through a link at the draft an installation overwrites the descriptor of another service, though
no request to the supervisor touches anything. -/
theorem install_overwrites_neighbour :
    let operations : List Operation := [.command (.install agentRequest)]
    let session := besideDraftlike
      [(["home", ".config", "systemd", "user", "agent.service.tmp"],
        .link "agent.service.tmp.service")]
    Layout.Keeps ⟨"/home"⟩ atHomeLeisured.supervisor.descriptorPath
        (Layout.systemdUser ⟨"/home"⟩) ∧
      atHomeLeisured.name.isValid = true ∧ draftlike.isValid = true ∧
      draftlike ≠ atHomeLeisured.name ∧
      session.world.files.resolveTarget (atHomeLeisured.supervisor.descriptorPath draftlike) =
        .ok draftlikePlace ∧
      session.world.files.find? draftlikePlace = some (.file "keep".toUTF8) ∧
      (∀ path, atHomeLeisured.LeavesAlone path) ∧
      (atHomeLeisured.performAll operations session).world.files.find? draftlikePlace ≠
        some (.file "keep".toUTF8) := by
  intro operations session
  have untouched (path : Path) : atHomeLeisured.LeavesAlone path :=
    ⟨fun _ => rfl, fun _ => rfl, fun _ => rfl, fun _ => rfl, fun _ => rfl⟩
  exact ⟨.systemdUser, by decide, by decide, by decide, by rfl, by decide +kernel, untouched,
    by decide +kernel⟩

end Controller

end Steward
