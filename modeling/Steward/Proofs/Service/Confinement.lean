import Steward.Proofs.Files.Names
import Steward.Proofs.Service.OwnChanges
import Steward.Service.Launchd

/-!
# Descriptors stay where they are kept

A valid name has no slash, so the descriptor and its draft are directly inside
the directory of the descriptors, and so is whatever is written, moved or
removed under them.  Writing asks for a valid name; removing does not.
-/

namespace Steward

open Relation (ReflTransGen)

variable {α : Type}

/-! ## Where descriptors are kept -/

/-- The two directories of descriptors below a home, with the descriptor under each name. -/
inductive Layout.Keeps (home : Path) : (ServiceName → Path) → Path → Prop
  | launchAgents : Keeps home (plist home) (launchAgents home)
  | systemdUser : Keeps home (unit home) (systemdUser home)

namespace Layout

/-- The directory of the descriptors of launchd or of systemd. -/
theorem Keeps.isFolder {home directory : Path} {file : ServiceName → Path}
    (keeps : Keeps home file directory) : directory.IsFolder := by
  cases keeps with
  | launchAgents =>
      exact Path.isFolder_join (home.join "Library") (by decide) (by decide)
  | systemdUser =>
      exact Path.isFolder_join ((home.join ".config").join "systemd") (by decide) (by decide)

/-- What the names of descriptors may end in. -/
structure IsEnding (ending : String) : Prop where
  /-- It has no slash. -/
  unslashed : Unslashed ending
  /-- It is longer than two dots. -/
  long : 2 < ending.toList.length
  /-- Drafts end in another letter. -/
  undrafted : ending.toList.getLast? ≠ some 'p'

/-- The descriptor under a name without a slash is in the directory, as the name with an ending. -/
theorem Keeps.file_under {home directory : Path} {file : ServiceName → Path}
    (keeps : Keeps home file directory) :
    ∃ ending, IsEnding ending ∧ ∀ name : ServiceName, Unslashed name.text →
      file name = directory.under (name.text ++ ending) := by
  have folder := keeps.isFolder
  cases keeps with
  | launchAgents =>
    have ending : IsEnding ".plist" := ⟨by decide, by decide, by decide⟩
    exact ⟨_, ending, fun name unslashed => folder.under (unslashed.append ending.unslashed)⟩
  | systemdUser =>
    have ending : IsEnding ".service" := ⟨by decide, by decide, by decide⟩
    exact ⟨_, ending, fun name unslashed => folder.under (unslashed.append ending.unslashed)⟩

end Layout

/-- A valid name has no slash. -/
theorem ServiceName.unslashed_of_isValid {name : ServiceName} (valid : name.isValid = true) :
    Unslashed name.text := by
  intro slash
  rw [isValid] at valid
  cases letters : name.text.toList with
  | nil => simp [letters] at slash
  | cons first rest =>
    rw [letters] at valid slash
    obtain ⟨-, all⟩ := Bool.and_eq_true_iff.1 valid
    have allowed := List.all_eq_true.1 all '/' slash
    exact absurd allowed (by decide)

/-- A name that is neither silent nor two dots. -/
structure IsLong (name : String) : Prop where
  /-- It is neither empty nor a dot. -/
  spoken : ¬(name = "" ∨ name = ".")
  /-- It is not two dots. -/
  downward : name ≠ ".."
  /-- As a stretch of a path it says something. -/
  said : Path.isSilent name.toList = false

theorem IsLong.of_length {name : String} (long : 2 < name.toList.length) : IsLong name where
  spoken := by
    rintro (rfl | rfl) <;> simp at long
  downward := by
    rintro rfl
    simp at long
  said := by
    cases letters : name.toList with
    | nil => simp [letters] at long
    | cons first rest =>
      cases rest with
      | nil => simp [letters] at long
      | cons second rest => simp [Path.isSilent]

theorem isLong_append (front : String) {back : String} (long : 2 < back.toList.length) :
    IsLong (front ++ back) := by
  apply IsLong.of_length
  rw [String.toList_append, List.length_append]
  omega

/-! ## The changes of a controller -/

namespace Controller

/-- A change of the files that makes wanted directories or stays directly inside a directory. -/
inductive KeptChange (controller : Controller α) (logs : Path → Prop) (directory : Path) :
    FileSystem → FileSystem → Prop
  | makes {files : FileSystem} {path target : Path} {place : Place}
      (wanted : logs target ∨ target = directory) (lower : Path.IsAbove target path)
      (resolved : files.resolveTarget path = .ok place) (absent : files.find? place = none) :
      KeptChange controller logs directory files (files.put place .directory)
  | inside {files later : FileSystem} {place : Place} (inside : files.IsInside directory place)
      (elsewhere : files.AgreesOff place later) :
      KeptChange controller logs directory files later
  | moved {files : FileSystem} {old new : Place} {entry : Entry}
      (source : files.IsInside directory old) (target : files.IsInside directory new)
      (found : files.find? old = some entry) :
      KeptChange controller logs directory files ((files.without old).put new entry)
  | throughLink {files : FileSystem} {place : Place} {target : String} {bytes : ByteArray}
      (link : files.lookupNoFollow controller.draftPath = .ok (.link target))
      (resolved : files.resolve controller.draftPath = .ok place) :
      KeptChange controller logs directory files (files.put place (.file bytes)).spent

/-- The removal of what the descriptor leads to outside a directory, under a name with a slash. -/
structure StrayRemoval (controller : Controller α) (directory : Path)
    (files later : FileSystem) : Prop where
  /-- The name has a slash. -/
  slashed : ¬Unslashed controller.name.text
  /-- What is removed is not in the directory. -/
  removed : ∃ place, files.resolveTarget controller.descriptorPath = .ok place ∧
    ¬files.IsInside directory place ∧ later = files.without place

variable {controller : Controller α} {logs : Path → Prop} {home directory : Path}

/-- Under a name without a slash the descriptor and its draft are in the directory. -/
theorem paths_under
    (keeps : Layout.Keeps home controller.supervisor.descriptorPath directory)
    (unslashed : Unslashed controller.name.text) :
    ∃ file draft, controller.descriptorPath = directory.under file ∧
      controller.draftPath = directory.under draft ∧ Unslashed file ∧ Unslashed draft ∧
        IsLong file ∧ IsLong draft := by
  obtain ⟨ending, isEnding, same⟩ := keeps.file_under
  have file : Unslashed (controller.name.text ++ ending) := unslashed.append isEnding.unslashed
  have descriptor : controller.descriptorPath = directory.under (controller.name.text ++ ending) :=
    same controller.name unslashed
  have draft : Unslashed (controller.name.text ++ ending ++ ".tmp") := file.append (by decide)
  refine ⟨_, _, descriptor, ?_, file, draft, isLong_append _ isEnding.long,
    isLong_append _ (by decide)⟩
  rw [draftPath, descriptor, Path.extend_under]

/-- A controller's own change stays in the directory of the descriptors, unless it removes the
descriptor under a name with a slash. -/
theorem OwnChange.kept_or_stray
    (keeps : Layout.Keeps home controller.supervisor.descriptorPath directory)
    {files later : FileSystem} (change : OwnChange controller logs files later) :
    KeptChange controller logs directory files later ∨
      StrayRemoval controller directory files later := by
  have folder := keeps.isFolder
  have named (valid : controller.name.isValid = true) :=
    paths_under keeps (ServiceName.unslashed_of_isValid valid)
  cases change with
  | directory valid makes resolved absent =>
      obtain ⟨file, draft, descriptor, -, unslashed, -, long, -⟩ := named valid
      obtain ⟨target, wanted, lower⟩ := makes
      rw [descriptor, Path.parent?_under folder.written folder.ends unslashed long.said] at wanted
      have wanted : logs target ∨ target = directory := wanted.imp_right fun same =>
        (Option.some.inj same).symm
      exact .inl (.makes wanted lower resolved absent)
  | draft valid resolved =>
      obtain ⟨file, draft, -, same, -, unslashed, -, long⟩ := named valid
      have reached := resolved
      rw [same] at reached
      rcases FileSystem.isInside_or_link_of_resolve folder.written unslashed long.spoken
        long.downward reached with inside | ⟨target, link⟩
      · exact .inl (.inside inside (FileSystem.agreesOff_put _ _ _))
      · rw [← same] at link
        exact .inl (.throughLink link resolved)
  | move valid source target found =>
      obtain ⟨file, draft, descriptor, same, unslashed, unslashedDraft, long, longDraft⟩ :=
        named valid
      rw [same] at source
      rw [descriptor] at target
      have left := FileSystem.isInside_of_resolveTarget folder.written unslashedDraft
        longDraft.spoken longDraft.downward source
      have right := FileSystem.isInside_of_resolveTarget folder.written unslashed long.spoken
        long.downward target
      exact .inl (.moved left right found)
  | discard valid resolved =>
      obtain ⟨file, draft, -, same, -, unslashed, -, long⟩ := named valid
      rw [same] at resolved
      exact .inl (.inside (FileSystem.isInside_of_resolveTarget folder.written unslashed
        long.spoken long.downward resolved) (FileSystem.agreesOff_without _ _))
  | @remove place resolved =>
      by_cases inside : files.IsInside directory place
      · exact .inl (.inside inside (FileSystem.agreesOff_without _ _))
      · refine .inr ⟨fun unslashed => inside ?_, place, resolved, inside, rfl⟩
        obtain ⟨file, draft, descriptor, -, unslashed, -, long, -⟩ := paths_under keeps unslashed
        rw [descriptor] at resolved
        exact FileSystem.isInside_of_resolveTarget folder.written unslashed long.spoken
          long.downward resolved

/-- The directories of logs that operations ask for. -/
def Wanted (operations : List Operation) (path : Path) : Prop :=
  ∃ operation ∈ operations, operation.Wants path

/-! ## A home with notes -/

/-- Tools that cannot be started. -/
def missingTools : Toolbox Unit := fun _ _ => throw .notFound

/-- The controller of the service with a name below `/home`. -/
def atHome (name : String) : Controller Unit :=
  ⟨Launchd.supervisor missingTools ⟨"/home"⟩ "gui/501", ⟨name⟩, .standard⟩

/-- A home with one descriptor, and with notes that are no descriptor. -/
def notesAtHome : Session (World Unit) where
  world := {
    files := {
      table := [(["home"], .directory), (["home", "Library"], .directory),
        (["home", "Library", "LaunchAgents"], .directory),
        (["home", "Library", "LaunchAgents", "agent.plist"], .file .empty),
        (["home", "notes.plist"], .file .empty)]
      here := []
      mishaps := [] }
    agent := () }
  now := 0
  horizon := Nanos.lastOfClock
  token := .fresh
  drift := fun _ => 0
  rests := 0

/-! ## Every sequence of operations -/

/-- Whatever a controller is asked for and whatever its supervisor does: apart from directories,
and where no link stands at the draft, the controller itself changes nothing outside the directory
of the descriptors but by removing the descriptor under a name with a slash. -/
theorem performAll_keeps (controller : Controller α)
    (keeps : Layout.Keeps home controller.supervisor.descriptorPath directory)
    (operations : List Operation) (session : Session (World α)) :
    let recorded := controller.recorded.performAll operations session.recording
    controller.performAll operations session = recorded.through World.unrecorded ∧
      session.recording.Gaps (fun files later =>
        KeptChange controller (Wanted operations) directory files later ∨
          StrayRemoval controller directory files later) recorded ∧
      (Unslashed controller.name.text →
        session.recording.Gaps (KeptChange controller (Wanted operations) directory)
          recorded) := by
  intro recorded
  have own : session.recording.Gaps (OwnChange controller (Wanted operations)) recorded :=
    controller.performAll_gaps operations (fun operation member _ wants =>
      ⟨operation, member, wants⟩) session.recording
  refine ⟨controller.performAll_through operations session.recording, ?_, ?_⟩
  · exact own.mono fun files later change => change.kept_or_stray keeps
  · intro unslashed
    apply own.mono
    intro files later change
    rcases change.kept_or_stray keeps with kept | stray
    · exact kept
    · exact absurd unslashed stray.slashed

theorem performAll_keeps_atHome :
    let controller := atHome "agent"
    Layout.Keeps ⟨"/home"⟩ controller.supervisor.descriptorPath (Layout.launchAgents ⟨"/home"⟩) ∧
      Unslashed controller.name.text ∧
      notesAtHome.recording.Gaps
        (KeptChange controller (Wanted [.command .uninstall]) (Layout.launchAgents ⟨"/home"⟩))
        (controller.recorded.performAll [.command .uninstall] notesAtHome.recording) ∧
      (controller.performAll [.command .uninstall] notesAtHome).world.files.find?
        ["home", "Library", "LaunchAgents", "agent.plist"] = none :=
  ⟨.launchAgents, by decide,
    (performAll_keeps (atHome "agent") .launchAgents [.command .uninstall] notesAtHome).2.2
      (by decide),
    by decide +kernel⟩

/-- Uninstalling under a name that leads out of the directory removes the notes, though no request
to the supervisor changes any file. -/
theorem uninstall_strays :
    let controller := atHome "../../notes"
    let recorded := controller.recorded.performAll [.command .uninstall] notesAtHome.recording
    (∀ line ∈ recorded.journal, line.after = line.before) ∧
      notesAtHome.world.files.find? ["home", "notes.plist"] = some (.file .empty) ∧
      ¬notesAtHome.world.files.IsInside (Layout.launchAgents ⟨"/home"⟩) ["home", "notes.plist"] ∧
      (controller.performAll [.command .uninstall] notesAtHome).world.files.find?
        ["home", "notes.plist"] = none := by
  refine ⟨by decide +kernel, by decide +kernel, ?_, by decide +kernel⟩
  rintro ⟨parent, name, reached, -, same⟩
  have there : notesAtHome.world.files.resolve (Layout.launchAgents ⟨"/home"⟩) =
      .ok ["home", "Library", "LaunchAgents"] := by rfl
  rw [there] at reached
  cases reached
  simp at same

end Controller

end Steward
