import Steward.Proofs.Files.Route
import Steward.Proofs.Trust.Archive

/-!
# The binary is spared

A run changes no file but the archive, so the binary is what the gateways make
of it, as long as the path of the archive is not on the route of the binary.
It is on the route where the binary is a link to its archive, though the texts
of the two paths differ.
-/

namespace Steward.Pipeline

variable {α : Type} {binary : Path}

/-! ## Apart from the archive -/

/-- What stands where the archive goes is not on the route of the binary. -/
def IsApart (binary : Path) (files : FileSystem) : Prop :=
  ∀ place, files.resolveTarget (archivePath binary) = .ok place → place ∉ files.routeOf binary

instance (binary : Path) (files : FileSystem) : Decidable (IsApart binary files) :=
  match resolved : files.resolveTarget (archivePath binary) with
  | .error _ => .isTrue fun place other => by simp [resolved] at other
  | .ok place =>
    if free : place ∉ files.routeOf binary then
      .isTrue fun other same => by
        rw [resolved] at same
        exact Except.ok.inj same ▸ free
    else .isFalse fun apart => free (apart place resolved)

/-- Whatever the binary reads as, it still reads as. -/
def Spares (binary : Path) (files later : FileSystem) : Prop :=
  ∀ bytes, files.read binary = .ok bytes → later.read binary = .ok bytes

instance (binary : Path) (files later : FileSystem) : Decidable (Spares binary files later) :=
  match read : files.read binary, again : later.read binary with
  | .error _, _ => .isTrue fun other same => by simp [read] at same
  | .ok bytes, .error _ => .isFalse fun spares => by
      have kept := spares bytes read
      simp [again] at kept
  | .ok bytes, .ok kept => @decidable_of_iff _ (kept = bytes) (by simp [Spares, read, again])
      (ByteArray.instDecidableEq kept bytes)

/-- The calls after which the archive is still to be cleared or removed leave its path apart from
the binary. -/
def AllApart (binary : Path) (journal : Journal GatewayCall) : Prop :=
  ∀ line ∈ journal, line.call.stage ∈ [.verify, .package, .submit] → IsApart binary line.after

instance (binary : Path) (journal : Journal GatewayCall) : Decidable (AllApart binary journal) :=
  inferInstanceAs (Decidable (∀ line ∈ journal, _ → _))

/-- Removing the archive spares a binary that is apart from it. -/
theorem spares_discarded {files : FileSystem} (apart : IsApart binary files) :
    Spares binary files (files.discarded (archivePath binary)) := by
  intro bytes read
  rw [FileSystem.discarded]
  cases removed : files.remove (archivePath binary) with
  | error failure => exact read
  | ok later => exact FileSystem.read_of_remove apart removed read

/-! ## From step to step -/

/-- What has been done so far besides calling spares the binary. -/
def Spared (binary : Path) (origin session : Recording α) : Prop :=
  AllApart binary session.journal → origin.Gaps (Spares binary) session

/-- The archive may be cleared or removed here. -/
def Clearable (binary : Path) (session : Recording α) : Prop :=
  AllApart binary session.journal → IsApart binary session.world.files

section Steps

variable {artifact : Artifact} {archive : Path} {stage : Stage}
  {origin session after : Recording α}

theorem AllApart.earlier (apart : AllApart binary after.journal)
    (calls : session.Calls stage after) : AllApart binary session.journal :=
  fun line member => apart line (calls.mem_journal member)

theorem Spared.calls (spared : Spared binary origin session) (calls : session.Calls stage after) :
    Spared binary origin after :=
  fun apart => (spared (apart.earlier calls)).trans calls.gaps

theorem Clearable.calls (clearable : Clearable binary session) (calls : session.Calls stage after)
    (held : stage ∈ [.verify, .package, .submit]) : Clearable binary after :=
  fun apart => calls.keeps (fun line member called _ => apart line member (called ▸ held))
    (clearable (apart.earlier calls))

/-- Removing the archive where that may be done. -/
theorem Spared.discarding (spared : Spared binary origin session)
    (clearable : Clearable binary session) (named : archive = archivePath binary) :
    Spared binary origin (session.discarding archive) := by
  intro apart
  have spares : Spares binary session.world.files (session.world.files.discarded archive) := by
    rw [named]
    exact spares_discarded (clearable apart)
  exact (spared apart).trans (.discarding spares)

/-- A call after which the archive may be removed. -/
theorem clearable_of_justCalled (called : session.JustCalled stage)
    (held : stage ∈ [.verify, .package, .submit]) : Clearable binary session := by
  obtain ⟨line, member, told, left⟩ := called
  intro apart
  exact left ▸ apart line member (told ▸ held)

/-- What a run has done to its binary in each of its phases. -/
theorem sparing_phases (binary : Path) (named : archive = archivePath binary)
    (origin : Recording α) :
    Phases binary archive (Spared binary origin)
      (fun session => Spared binary origin session ∧ Clearable binary session)
      (fun session => Spared binary origin session ∧ Clearable binary session)
      (Spared binary origin) (Spared binary origin) where
  sign _ _ spared calls := spared.calls calls
  verify _ _ spared calls := by
    refine ⟨spared.calls calls, fun called => ⟨spared.calls calls, ?_⟩⟩
    exact clearable_of_justCalled called (by decide)
  early_settled _ spared := spared
  unclaimed _ _ ready _ := ready.1.discarding ready.2 named
  package _ _ ready _ _ _ calls called := by
    refine ⟨(ready.1.discarding ready.2 named).calls calls, ?_⟩
    exact clearable_of_justCalled called (by decide)
  submit _ _ held calls := ⟨held.1.calls calls, held.2.calls calls (by decide)⟩
  drop _ held := held.1.discarding held.2 named
  finish _ _ _ _ spared calls := spared.calls calls
  late_settled _ spared := spared

end Steps

/-! ## Packaging and runs -/

/-- What the calls of a journal and what is done between them leave to a binary. -/
structure SparesBetween (binary : Path) (first : FileSystem) (calls : Journal GatewayCall)
    (last : FileSystem) : Prop where
  /-- Between any two calls the binary stays what it is. -/
  between : Journal.Gaps (Spares binary) first calls last
  /-- From any call on, while further calls spare the binary, it stays what it is: from the check
  of the signature to the first query, say, by which time the archive has been removed. -/
  through : ∀ front line middle back, calls = front ++ line :: (middle ++ back) →
    (∀ other ∈ middle, Spares binary other.before other.after) →
      Spares binary line.after (Journal.next back last)

theorem sparesBetween_of_gaps {first last : FileSystem} {calls : Journal GatewayCall}
    (between : Journal.Gaps (Spares binary) first calls last) :
    SparesBetween binary first calls last := by
  refine ⟨between, ?_⟩
  rintro front line middle back rfl spares bytes
  exact between.keeps_after (fun _ _ kept => kept bytes) fun other member =>
    spares other member bytes

section Spares

variable (pipeline : Pipeline α) {artifact : Artifact} {session : Session (World α)}

/-- The calls that packaging on its own makes. -/
def packageCalls (artifact : Artifact) (session : Session (World α)) : Journal GatewayCall :=
  (pipeline.recorded.package artifact session.recording).2.journal

theorem files_package :
    (pipeline.package artifact session).2.world.files =
      (pipeline.recorded.package artifact session.recording).2.world.files := by
  have refined := pipeline.package_refines artifact session.recording
  rw [Session.recording_through] at refined
  rw [refined, files_through]

/-- Packaging leaves to its binary what the packager leaves to it. -/
theorem package_spares (apart : IsApart artifact.path session.world.files)
    (calls : ∀ line ∈ pipeline.packageCalls artifact session,
      IsApart artifact.path line.after ∧ Spares artifact.path line.before line.after) :
    Spares artifact.path session.world.files
      (pipeline.package artifact session).2.world.files := by
  have spared : Spared artifact.path session.recording
      (pipeline.recorded.package artifact session.recording).2 := by
    have phases := sparing_phases artifact.path rfl session.recording
    have met := phases.package_ensures pipeline rfl artifact session.recording
      ⟨rfl, fun _ => .refl _, fun _ => .refl _, fun _ => apart⟩
    generalize pipeline.recorded.package artifact session.recording = left at met ⊢
    rcases left with ⟨⟨failure | packed, reached⟩, after⟩
    · exact met
    · exact met.2.1
  rw [files_package]
  rw [packageCalls] at calls
  generalize pipeline.recorded.package artifact session.recording = left at calls spared ⊢
  have gaps := (spared fun line member _ => (calls line member).1).of_recording
  rw [← List.append_nil left.2.journal] at gaps
  intro bytes
  exact gaps.keeps (fun _ _ spares => spares bytes) fun line member => (calls line member).2 bytes

/-- A run spares its binary if the path of the archive stays apart from it. -/
theorem run_spares (apart : AllApart binary (pipeline.calls binary session)) :
    SparesBetween binary session.world.files (pipeline.calls binary session)
      (pipeline.run binary session).2.world.files := by
  have begun : Spared binary (session.recording (κ := GatewayCall)) session.recording :=
    fun _ => .refl _
  have spared := (sparing_phases binary rfl _).run_settles pipeline rfl session begun
  rw [files_run]
  rw [calls] at apart ⊢
  generalize pipeline.recorded.run binary session.recording = left at apart spared ⊢
  exact sparesBetween_of_gaps (spared apart).of_recording

theorem unprepared_of_sameParts (same : (archivePath binary).sameParts binary = true) :
    pipeline.calls binary session = [] ∧
      ∃ failure, pipeline.run binary session = (.error failure, session) := by
  have refused {α : Type} {pipeline : Pipeline α} (checked : pipeline.check binary = .ok ()) :
      False := by
    obtain ⟨-, -, -, distinct⟩ := pipeline.prepared_of_check checked
    rw [same] at distinct
    cases distinct
  constructor
  · have ends := run_ends pipeline.recorded binary session.recording
    rw [calls]
    generalize pipeline.recorded.run binary session.recording = left at ends ⊢
    cases ends with
    | unprepared => rfl
    | unopened checked | failed checked | done checked => exact (refused checked).elim
  · have ends := run_ends pipeline binary session
    generalize pipeline.run binary session = left at ends ⊢
    cases ends with
    | unprepared => exact ⟨_, rfl⟩
    | unopened checked | failed checked | done checked => exact (refused checked).elim

theorem unpackaged_of_sameParts
    (same : (archivePath artifact.path).sameParts artifact.path = true) :
    ∃ failure, pipeline.package artifact session = ((.error failure, artifact), session) := by
  have ends := package_ends pipeline artifact session
  have refused {archive : Path} (distinct : distinctArchivePath artifact.path = .ok archive) :
      False := by
    simp [distinctArchivePath, same] at distinct
  generalize pipeline.package artifact session = left at ends ⊢
  cases ends with
  | cancelled | missing | sameFile => exact ⟨_, rfl⟩
  | unclaimed _ distinct | failed _ distinct | done _ distinct => exact (refused distinct).elim

end Spares

/-! ## A link to an archive -/

/-- Files with a binary that is a link. -/
def linkedTo (target : String) (place : Place) : Session (World Unit) where
  world :=
    ⟨⟨[(["agent"], .link target), (["build"], .directory), (place, .file .empty)], [], []⟩, ()⟩
  now := 0
  horizon := Nanos.lastOfClock
  token := .fresh
  drift _ := 0
  rests := 0

/-! ## Every binary -/

/-- Where the path of the archive is apart from the binary, packaging and runs spare the binary as
far as the gateways do; and a binary whose archive would have its own parts is refused before
anything is called or changed. -/
theorem archive_spares_binary (pipeline : Pipeline α) (binary : Path) :
    (∀ (artifact : Artifact) (session : Session (World α)), artifact.path = binary →
      IsApart binary session.world.files →
      (∀ line ∈ pipeline.packageCalls artifact session,
        IsApart binary line.after ∧ Spares binary line.before line.after) →
      Spares binary session.world.files (pipeline.package artifact session).2.world.files) ∧
    (∀ session : Session (World α), AllApart binary (pipeline.calls binary session) →
      SparesBetween binary session.world.files (pipeline.calls binary session)
        (pipeline.run binary session).2.world.files) ∧
    ((archivePath binary).sameParts binary = true →
      (∀ session : Session (World α), pipeline.calls binary session = [] ∧
        ∃ failure, pipeline.run binary session = (.error failure, session)) ∧
      ∀ (artifact : Artifact) (session : Session (World α)), artifact.path = binary →
        ∃ failure, pipeline.package artifact session = ((.error failure, artifact), session)) := by
  refine ⟨?_, ?_, fun same => ⟨?_, ?_⟩⟩
  · rintro artifact session rfl apart calls
    exact pipeline.package_spares apart calls
  · intro session apart
    exact pipeline.run_spares apart
  · intro session
    exact pipeline.unprepared_of_sameParts same
  · rintro artifact session rfl
    exact pipeline.unpackaged_of_sameParts same

theorem archive_spares_binary_linked :
    let session := linkedTo "build/agent" ["build", "agent"]
    let binary : Path := ⟨"/agent"⟩
    let artifact : Artifact := ⟨binary, "", [], .signed⟩
    (IsApart binary session.world.files ∧
      (∀ line ∈ broken.packageCalls artifact session,
        IsApart binary line.after ∧ Spares binary line.before line.after) ∧
      (broken.package artifact session).2.world.files.read binary = .ok .empty) ∧
    (AllApart binary (broken.calls binary session) ∧
      SparesBetween binary session.world.files (broken.calls binary session)
        (broken.run binary session).2.world.files) ∧
    ((archivePath ⟨"/agent.zip"⟩).sameParts ⟨"/agent.zip"⟩ = true ∧
      broken.calls ⟨"/agent.zip"⟩ session = []) := by
  intro session binary artifact
  have apart : IsApart binary session.world.files := by decide +kernel
  have calls : ∀ line ∈ broken.packageCalls artifact session,
      IsApart binary line.after ∧ Spares binary line.before line.after := by decide +kernel
  have allApart : AllApart binary (broken.calls binary session) := by decide +kernel
  have same : (archivePath ⟨"/agent.zip"⟩).sameParts ⟨"/agent.zip"⟩ = true := by decide +kernel
  have law := archive_spares_binary broken binary
  refine ⟨⟨apart, calls, ?_⟩, ⟨allApart, law.2.1 session allApart⟩, same, ?_⟩
  · exact law.1 artifact session rfl apart calls .empty (by decide +kernel)
  · exact (((archive_spares_binary broken ⟨"/agent.zip"⟩).2.2 same).1 session).1

/-- A binary that is a link to its own archive is removed by its run, though no gateway changes
any file: the path of the archive is compared with the path of the binary by its text only. -/
theorem run_removes_linked_binary :
    let session := linkedTo "agent.zip" ["agent.zip"]
    let binary : Path := ⟨"/agent"⟩
    let final := (idle.run binary session).2.world.files
    session.world.files.isFile binary = true ∧
      (∀ line ∈ idle.calls binary session, line.after = line.before) ∧
      final.find? ["agent.zip"] = none ∧ final.isFile binary = false := by
  decide +kernel

end Steward.Pipeline
