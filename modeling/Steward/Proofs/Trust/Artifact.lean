import Steward.Proofs.Files.Running
import Steward.Trust.Artifact

/-!
# Artifacts that take a step

An artifact that reaches a marker keeps everything else, and a new digest
leaves its markers alone.
-/

namespace Steward.Artifact

theorem advance_eq_ok_iff {artifact reached : Artifact} {next : Marker} :
    artifact.advance next = .ok reached ↔
      next.ordinal = artifact.marker.ordinal + 1 ∧
        reached = { artifact with earlier := artifact.history, marker := next } := by
  unfold advance
  split <;> simp_all [eq_comm]

theorem advance_eq_error_iff {artifact : Artifact} {next : Marker} {failure : TrustError} :
    artifact.advance next = .error failure ↔
      next.ordinal ≠ artifact.marker.ordinal + 1 ∧
        failure = .stageOrder artifact.marker.label next.label := by
  unfold advance
  split <;> simp_all [eq_comm]

section Advance

variable {artifact reached : Artifact} {next : Marker}
  (advanced : artifact.advance next = .ok reached)
include advanced

theorem path_of_advance : reached.path = artifact.path := by
  obtain ⟨-, rfl⟩ := advance_eq_ok_iff.1 advanced
  rfl

theorem marker_of_advance : reached.marker = next := by
  obtain ⟨-, rfl⟩ := advance_eq_ok_iff.1 advanced
  rfl

theorem history_of_advance : reached.history = artifact.history ++ [next] := by
  obtain ⟨-, rfl⟩ := advance_eq_ok_iff.1 advanced
  rfl

theorem ordinal_of_advance : next.ordinal = artifact.marker.ordinal + 1 :=
  (advance_eq_ok_iff.1 advanced).1

end Advance

theorem refresh_eq_ok_iff {artifact reread : Artifact} {files : FileSystem} :
    artifact.refresh files = .ok reread ↔
      ∃ sha256, contentHash files artifact.path = .ok sha256 ∧
        reread = { artifact with sha256 := sha256 } := by
  rw [refresh, Except.bind_eq_ok_iff]
  simp [pure, Except.pure, eq_comm]

section Refresh

variable {artifact reread : Artifact} {files : FileSystem}
  (refreshed : artifact.refresh files = .ok reread)
include refreshed

theorem path_of_refresh : reread.path = artifact.path := by
  obtain ⟨_, -, rfl⟩ := refresh_eq_ok_iff.1 refreshed
  rfl

theorem marker_of_refresh : reread.marker = artifact.marker := by
  obtain ⟨_, -, rfl⟩ := refresh_eq_ok_iff.1 refreshed
  rfl

theorem history_of_refresh : reread.history = artifact.history := by
  obtain ⟨_, -, rfl⟩ := refresh_eq_ok_iff.1 refreshed
  rfl

end Refresh

theorem startingAt_eq_ok_iff {marker : Marker} {files : FileSystem} {path : Path}
    {artifact : Artifact} :
    startingAt marker files path = .ok artifact ↔
      ∃ sha256, contentHash files path = .ok sha256 ∧ artifact = ⟨path, sha256, [], marker⟩ := by
  rw [startingAt, Except.bind_eq_ok_iff]
  simp [pure, Except.pure, eq_comm]

/-- A binary can be opened exactly when it can be read. -/
theorem contentHash_eq_ok_iff {files : FileSystem} {path : Path} {sha256 : String} :
    contentHash files path = .ok sha256 ↔
      ∃ bytes, files.read path = .ok bytes ∧ Sha256.hexDigest bytes = sha256 := by
  unfold contentHash
  split <;> simp_all

end Steward.Artifact
