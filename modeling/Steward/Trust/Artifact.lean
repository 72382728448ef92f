import Steward.Files.Operations
import Steward.Trust.Error
import Steward.Digest.Sha256

/-!
# Artifacts

An artifact is a binary together with the markers it has reached, oldest
first.  There is always a last marker, and a new one is always the next step
after it.
-/

namespace Steward

/-- The last word of the authority. -/
inductive Verdict
  | success
  /-- Refused, in the word that the authority used. -/
  | rejected (status : String)
  /-- No verdict came in time; the last status read. -/
  | unknown (status : String)
  deriving DecidableEq, Repr

/-- How far an artifact has come. -/
inductive Marker
  | unsigned
  | signed
  | packaged (archive : Path)
  | submitted (trackingId : TrackingId)
  /-- The authority has spoken, or was waited for in vain. -/
  | verdict (verdict : Verdict)
  | stapled
  deriving DecidableEq, Repr

namespace Marker

/-- The place of a marker in the order of steps. -/
def ordinal : Marker → Nat
  | unsigned => 0
  | signed => 1
  | packaged _ => 2
  | submitted _ => 3
  | verdict _ => 4
  | stapled => 5

def label : Marker → String
  | unsigned => "unsigned"
  | signed => "signed"
  | packaged _ => "packaged"
  | submitted _ => "submitted"
  | verdict _ => "verdict"
  | stapled => "stapled"

def trackingId? : Marker → Option TrackingId
  | submitted trackingId => some trackingId
  | _ => none

end Marker

/-- A binary and the markers it has reached. -/
structure Artifact where
  path : Path
  /-- The digest of the binary at its last step. -/
  sha256 : String
  /-- The markers before the last, oldest first. -/
  earlier : List Marker
  marker : Marker
  deriving DecidableEq, Repr

namespace Artifact

/-- All markers, oldest first. -/
def history (artifact : Artifact) : List Marker :=
  artifact.earlier ++ [artifact.marker]

/-- The id of the submission, once there is one. -/
def trackingId? (artifact : Artifact) : Option TrackingId :=
  artifact.history.findSome? Marker.trackingId?

/-! ## Contents -/

/-- The digest of the file a path leads to. -/
def contentHash (files : FileSystem) (path : Path) : Except TrustError String :=
  match files.read path with
  | .ok bytes => .ok (Sha256.hexDigest bytes)
  | .error .notFound => .error (.notFound path)
  | .error cause => .error (.io path cause)

/-- An artifact that starts at a marker. -/
def startingAt (marker : Marker) (files : FileSystem) (path : Path) :
    Except TrustError Artifact := do
  let sha256 ← contentHash files path
  return ⟨path, sha256, [], marker⟩

/-- A binary as it comes. -/
def track : FileSystem → Path → Except TrustError Artifact :=
  startingAt .unsigned

/-- A binary that was signed and submitted earlier. -/
def adopt (trackingId : TrackingId) : FileSystem → Path → Except TrustError Artifact :=
  startingAt (.submitted trackingId)

/-! ## Steps -/

/-- The artifact with one more marker, which must be the next step after the last. -/
def advance (artifact : Artifact) (next : Marker) : Except TrustError Artifact :=
  if next.ordinal = artifact.marker.ordinal + 1 then
    .ok { artifact with earlier := artifact.history, marker := next }
  else .error (.stageOrder artifact.marker.label next.label)

/-- The artifact with the digest of its file as it is now. -/
def refresh (artifact : Artifact) (files : FileSystem) : Except TrustError Artifact := do
  let sha256 ← contentHash files artifact.path
  return { artifact with sha256 := sha256 }

end Artifact

end Steward
