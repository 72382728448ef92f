import Steward.Proofs.Files.Siblings
import Steward.Proofs.Trust.Phases

/-!
# No archive is left

A run that has claimed the path of its archive leaves nothing there, however
it ends, as long as the gateways put nothing there that a run cannot remove or
does not come to.  A run that ends before has changed nothing.
-/

namespace Steward.Pipeline

variable {α : Type} {binary archive : Path}

/-! ## What the gateways may leave -/

/-- What a call may leave at the path of the archive. -/
structure Tidy (archive : Path) (line : Line GatewayCall) : Prop where
  /-- No directory is left there. -/
  solid : line.after.lookupNoFollow archive ≠ .ok .directory
  /-- Once the archive has been handed in, nothing is put there any more. -/
  still : line.call.stage = .poll ∨ line.call.stage = .staple →
    line.before.IsVacant archive → line.after.IsVacant archive

instance (archive : Path) (line : Line GatewayCall) : Decidable (Tidy archive line) :=
  decidable_of_iff (line.after.lookupNoFollow archive ≠ .ok .directory ∧
      (line.call.stage = .poll ∨ line.call.stage = .staple →
        line.before.IsVacant archive → line.after.IsVacant archive))
    ⟨fun ⟨solid, still⟩ => ⟨solid, still⟩, fun tidy => ⟨tidy.solid, tidy.still⟩⟩

/-- Every call is tidy. -/
def AllTidy (archive : Path) (journal : Journal GatewayCall) : Prop :=
  ∀ line ∈ journal, Tidy archive line

instance (archive : Path) (journal : Journal GatewayCall) : Decidable (AllTidy archive journal) :=
  inferInstanceAs (Decidable (∀ line ∈ journal, Tidy archive line))

/-- The packager has been called. -/
def CallsPackager (journal : Journal GatewayCall) : Prop :=
  ∃ line ∈ journal, line.call.stage = .package

instance (journal : Journal GatewayCall) : Decidable (CallsPackager journal) :=
  inferInstanceAs (Decidable (∃ line ∈ journal, line.call.stage = .package))

/-! ## Claiming -/

/-- A path that could not be claimed is as it was. -/
theorem discarded_of_unclaimed {files : FileSystem} {failure : TrustError}
    (unclaimed : (claim archive files).1 = .error failure) : files.discarded archive = files := by
  rw [claim_apply] at unclaimed
  rw [FileSystem.discarded]
  cases removed : files.remove archive with
  | ok later => simp [removed] at unclaimed
  | error failure => rfl

/-- An archive whose path has been claimed is under a name of its own. -/
theorem removable_of_claim {files : FileSystem} (present : files.isFile binary = true)
    (distinct : distinctArchivePath binary = .ok archive)
    (claimed : (claim archive files).1 = .ok ()) :
    FileSystem.endsInName archive = true ∧ archive.endsInSlash = false := by
  have cleared : (FileAct.clear archive files).1 = .ok () := by
    rwa [claim, FileAct.adapt_apply, Except.mapError_eq_ok_iff] at claimed
  obtain rfl := archivePath_of_distinct distinct
  have renamed := binary.renamed_withExtension "zip" (by decide)
  rw [archivePath] at cleared ⊢
  generalize whole : binary.withExtension "zip" = archive at renamed cleared ⊢
  cases renamed with
  | same => simp [distinctArchivePath, archivePath, whole, Path.sameParts] at distinct
  | @named _ front kept ends =>
      have long : 4 ≤ (kept ++ "." ++ "zip").length := by
        rw [String.length_append, String.length_append]
        exact Nat.le_add_left 4 kept.length
      have other {name : String} (short : name.length < 4) : kept ++ "." ++ "zip" ≠ name := by
        rintro rfl
        omega
      refine ⟨?_, ends.endsInSlash (other (by decide))⟩
      rw [ends.endsInName_eq (other (by decide))]
      simp only [Bool.and_eq_true, bne_iff_ne]
      exact ⟨other (by decide), other (by decide)⟩
  | dots ended spoken downward ends =>
      exact absurd cleared (FileSystem.clear_dots_ne_ok ended spoken downward ends present)

/-- Packaging calls the packager exactly if it has claimed the path of the archive. -/
theorem package_calls_iff (pipeline : Pipeline α) (artifact : Artifact)
    (session : Recording α) :
    (pipeline.recorded.package artifact session).2.journal ≠ session.journal ↔
      Ready artifact session ∧ ∃ archive, distinctArchivePath artifact.path = .ok archive ∧
        (claim archive session.world.files).1 = .ok () := by
  have ends := package_ends pipeline.recorded artifact session
  generalize pipeline.recorded.package artifact session = left at ends ⊢
  have grown {archive : Path} {left : Left (α × Journal GatewayCall) Unit}
      (packing : Packing pipeline.recorded archive artifact (session.discarding archive) left) :
      left.2.journal ≠ session.journal := by
    obtain ⟨answer, journal⟩ := packing.called
    rw [journal, Session.journal_discarding]
    simp
  cases ends with
  | cancelled fired =>
      refine iff_of_false (fun changed => changed rfl) fun claims => ?_
      simp [claims.1.live] at fired
  | missing live missing =>
      refine iff_of_false (fun changed => changed rfl) fun claims => ?_
      simp [claims.1.present] at missing
  | sameFile ready same => simp [same]
  | unclaimed ready distinct unclaimed => simp [distinct, unclaimed]
  | failed ready distinct claimed packing =>
      exact ⟨fun _ => ⟨ready, _, distinct, claimed⟩, fun _ => grown packing⟩
  | done ready distinct claimed packing =>
      exact ⟨fun _ => ⟨ready, _, distinct, claimed⟩, fun _ => grown packing⟩

/-! ## From step to step -/

/-- A run that has not called the packager has changed nothing. -/
structure Untouched (origin : FileSystem) (session : Recording α) : Prop where
  uncalled : ¬CallsPackager session.journal
  explained : Journal.Explains origin session.journal session.world.files

/-- A run that has called the packager and keeps the archive. -/
structure Holds (archive : Path) (session : Recording α) : Prop where
  called : CallsPackager session.journal
  /-- The archive can be removed. -/
  removable : FileSystem.endsInName archive = true ∧ archive.endsInSlash = false
  solid : AllTidy archive session.journal →
    session.world.files.lookupNoFollow archive ≠ .ok .directory

/-- A run that has called the packager and has no archive any more. -/
structure Cleared (archive : Path) (session : Recording α) : Prop where
  called : CallsPackager session.journal
  vacant : AllTidy archive session.journal → session.world.files.IsVacant archive

/-- A run may end here. -/
def Settled (archive : Path) (origin : FileSystem) (session : Recording α) : Prop :=
  Untouched origin session ∨ Cleared archive session

section Steps

variable {origin : FileSystem} {stage : Stage} {session after : Recording α}

theorem CallsPackager.later (called : CallsPackager session.journal)
    (calls : session.Calls stage after) : CallsPackager after.journal := by
  obtain ⟨line, member, packager⟩ := called
  exact ⟨line, calls.mem_journal member, packager⟩

theorem AllTidy.earlier (tidy : AllTidy archive after.journal)
    (calls : session.Calls stage after) : AllTidy archive session.journal :=
  fun line member => tidy line (calls.mem_journal member)

theorem Untouched.calls (untouched : Untouched origin session) (calls : session.Calls stage after)
    (other : stage ≠ .package) : Untouched origin after where
  uncalled := by
    rintro ⟨line, member, packager⟩
    rcases calls.stage_of_mem member with earlier | called
    · exact untouched.uncalled ⟨line, earlier, packager⟩
    · exact other (called.symm.trans packager)
  explained := by
    obtain ⟨lines, grown, -, explained⟩ := calls
    rw [grown]
    exact untouched.explained.append explained

theorem Holds.calls (holds : Holds archive session) (calls : session.Calls stage after) :
    Holds archive after where
  called := holds.called.later calls
  removable := holds.removable
  solid tidy := calls.keeps (P := fun files => files.lookupNoFollow archive ≠ .ok .directory)
    (fun line member _ _ => (tidy line member).solid) (holds.solid (tidy.earlier calls))

/-- Discarding the archive clears its path. -/
theorem Holds.discarding (holds : Holds archive session) :
    Cleared archive (session.discarding archive) where
  called := holds.called
  vacant tidy :=
    FileSystem.isVacant_discarded holds.removable.1 holds.removable.2 (holds.solid tidy)

theorem Cleared.calls (cleared : Cleared archive session) (calls : session.Calls stage after)
    (late : stage = .poll ∨ stage = .staple) : Cleared archive after where
  called := cleared.called.later calls
  vacant tidy := calls.keeps (P := fun files => files.IsVacant archive)
    (fun line member called => (tidy line member).still (called ▸ late))
    (cleared.vacant (tidy.earlier calls))

/-- What a run has done at the path of its archive in each of its phases. -/
theorem archive_phases (binary archive : Path) (origin : FileSystem) :
    Phases (α := α) binary archive (Untouched origin) (Untouched origin) (Holds archive)
      (Cleared archive) (Settled archive origin) where
  sign _ _ untouched calls := untouched.calls calls nofun
  verify _ _ untouched calls :=
    ⟨untouched.calls calls nofun, fun _ => untouched.calls calls nofun⟩
  early_settled _ untouched := .inl untouched
  unclaimed session failure untouched unclaimed := by
    refine .inl ⟨untouched.uncalled, ?_⟩
    show Journal.Explains origin session.journal (session.world.files.discarded archive)
    rw [discarded_of_unclaimed unclaimed]
    exact untouched.explained
  package session after _ present distinct claimed _ called := by
    obtain ⟨line, member, packager, left⟩ := called
    constructor
    · exact ⟨line, member, packager⟩
    · exact removable_of_claim present distinct claimed
    · intro tidy
      exact left ▸ (tidy line member).solid
  submit _ _ holds calls := holds.calls calls
  drop _ holds := holds.discarding
  finish _ _ _ late cleared calls := cleared.calls calls late
  late_settled _ cleared := .inr cleared

end Steps

/-! ## A packager that breaks off -/

/-- A pipeline whose gateways do nothing and succeed. -/
def idle : Pipeline Unit where
  signer := ⟨fun _ _ _ => pure ⟨"", ""⟩, fun _ => pure ⟨"", ""⟩⟩
  packager := fun _ _ => pure ()
  notary := ⟨fun _ _ _ => pure ⟨"", ""⟩, fun _ _ => pure ⟨"", ""⟩, fun _ => pure ⟨"", ""⟩⟩
  settings := ⟨"identity", "bundle", some (.profile "notary"), .standard, .standard⟩

/-- A packager that writes a part of the archive and then fails. -/
def breaksOff : Packager Unit := fun _ archive world =>
  match world.files.writeText archive "part" with
  | .ok files => ⟨.error (.spawn "zip" (.system 28)), ⟨files, ()⟩, 0, false⟩
  | .error failure => ⟨.error (.spawn "zip" failure), world, 0, false⟩

/-- That packager among gateways that do nothing else. -/
def broken : Pipeline Unit :=
  { idle with packager := breaksOff }

/-- A binary with an older archive beside it. -/
def besideArchive : Session (World Unit) where
  world := ⟨⟨[(["agent"], .file .empty), (["agent.zip"], .link "agent")], [], []⟩, ()⟩
  now := 0
  horizon := Nanos.lastOfClock
  token := .fresh
  drift _ := 0
  rests := 0

/-! ## Every run -/

theorem untouched_recording (session : Session (World α)) :
    Untouched session.world.files (session.recording (κ := GatewayCall)) where
  uncalled := by
    rintro ⟨line, member, -⟩
    exact absurd member List.not_mem_nil
  explained := .refl _

/-- A run that gets past claiming the path of its archive, which is when it calls the packager,
leaves nothing there if the calls are tidy.  A run that ends before has changed nothing. -/
theorem run_leaves_no_archive (pipeline : Pipeline α) (binary : Path)
    (session : Session (World α)) :
    (CallsPackager (pipeline.calls binary session) →
      AllTidy (archivePath binary) (pipeline.calls binary session) →
        (pipeline.run binary session).2.world.files.IsVacant (archivePath binary)) ∧
    (¬CallsPackager (pipeline.calls binary session) →
      Journal.Explains session.world.files (pipeline.calls binary session)
        (pipeline.run binary session).2.world.files) := by
  rw [files_run, calls]
  have settled := (archive_phases binary _ session.world.files).run_settles pipeline rfl session
    (untouched_recording session)
  rcases settled with untouched | cleared
  · exact ⟨fun called => absurd called untouched.uncalled, fun _ => untouched.explained⟩
  · exact ⟨fun _ => cleared.vacant, fun uncalled => absurd cleared.called uncalled⟩

theorem run_leaves_no_archive_broken :
    let calls := broken.calls ⟨"/agent"⟩ besideArchive
    let final := (broken.run ⟨"/agent"⟩ besideArchive).2.world.files
    CallsPackager calls ∧ AllTidy (archivePath ⟨"/agent"⟩) calls ∧
      final.IsVacant (archivePath ⟨"/agent"⟩) ∧ final.find? ["agent"] = some (.file .empty) := by
  intro calls final
  have called : CallsPackager calls := by decide +kernel
  have tidy : AllTidy (archivePath ⟨"/agent"⟩) calls := by decide +kernel
  refine ⟨called, tidy, ?_, by decide +kernel⟩
  exact (broken.run_leaves_no_archive ⟨"/agent"⟩ besideArchive).1 called tidy

end Steward.Pipeline
