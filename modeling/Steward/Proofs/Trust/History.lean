import Mathlib.Data.List.Chain
import Steward.Proofs.Trust.Footprint

/-!
# Histories of artifacts

The operations on an artifact may be asked for in any order, any number of
times, and by different pipelines.  Whatever comes of each of them, the markers
of the artifact stay in the order of the steps.
-/

namespace Steward

variable {α : Type}

/-! ## Turns -/

/-- What may be asked for on an artifact. -/
inductive Pipeline.Operation
  /-- Sign the binary. -/
  | sign
  /-- Check the signature. -/
  | verify
  /-- Pack the binary. -/
  | package
  /-- Hand in an archive. -/
  | submit (archive : Path)
  /-- Wait for the verdict on a submission. -/
  | await (submission : Submission)
  /-- Attach the ticket. -/
  | staple

/-- An operation of a pipeline, without its value. -/
def Pipeline.perform (pipeline : Pipeline α) : Operation → Work α TrustError Unit
  | .sign => pipeline.sign
  | .verify => do Work.act (pipeline.verify (← get))
  | .package => do let _ ← pipeline.package
  | .submit archive => do let _ ← pipeline.submit archive
  | .await submission => do let _ ← pipeline.await submission
  | .staple => pipeline.staple

/-- An operation asked for in a session of its own. -/
structure Turn (α : Type) where
  /-- The pipeline that is asked. -/
  pipeline : Pipeline α
  /-- What it is asked for. -/
  operation : Pipeline.Operation
  /-- The session at that time. -/
  session : Session (World α)

namespace Turn

/-- What a turn makes of an artifact. -/
def result (turn : Turn α) (artifact : Artifact) : Artifact :=
  (turn.pipeline.perform turn.operation artifact turn.session).1.2

/-- The calls that a turn makes. -/
def calls (turn : Turn α) (artifact : Artifact) : Journal GatewayCall :=
  (turn.pipeline.recorded.perform turn.operation artifact turn.session.recording).2.journal

/-- What turns make of an artifact one after the other. -/
def results (turns : List (Turn α)) (artifact : Artifact) : Artifact :=
  turns.foldl (fun artifact turn => turn.result artifact) artifact

end Turn

/-! ## Histories in order -/

/-- Whether a marker may come right after another. -/
structure Marker.Follows (earlier later : Marker) : Prop where
  /-- It is the next step. -/
  next : later.ordinal = earlier.ordinal + 1
  /-- The ticket comes only after acceptance. -/
  accepted : later = .stapled → earlier = .verdict .success

/-- Whether no marker may come after one. -/
def Marker.IsFinal : Marker → Prop
  | .verdict (.rejected _) | .stapled => True
  | _ => False

/-- The markers of a history are in order. -/
structure IsOrderly (history : List Marker) : Prop where
  /-- There is a first marker: the binary came unsigned or was submitted earlier. -/
  begins : ∃ first rest, history = first :: rest ∧
    (first = .unsigned ∨ ∃ trackingId, first = .submitted trackingId)
  /-- Each further marker may come after the one before it. -/
  follows : history.IsChain Marker.Follows

theorem Marker.IsFinal.not_follows {earlier later : Marker} (final : earlier.IsFinal) :
    ¬earlier.Follows later := by
  rintro ⟨next, accepted⟩
  cases earlier with
  | stapled => cases later <;> simp [ordinal] at next
  | verdict verdict =>
      cases later with
      | stapled => cases accepted rfl; exact final
      | _ => simp [ordinal] at next
  | _ => exact final

/-- What a turn may make of an artifact: its markers stay, or one follows the last. -/
inductive Grows (artifact : Artifact) : Artifact → Prop
  | same {reached : Artifact} (marker : reached.marker = artifact.marker)
      (history : reached.history = artifact.history) : Grows artifact reached
  | more {reached : Artifact} {next : Marker} (marker : reached.marker = next)
      (history : reached.history = artifact.history ++ [next])
      (follows : artifact.marker.Follows next) : Grows artifact reached

namespace Grows

variable {artifact reached : Artifact}

theorem refl : Grows artifact artifact :=
  .same rfl rfl

theorem of_advance {next : Marker} (advanced : artifact.advance next = .ok reached)
    (accepted : next = .stapled → artifact.marker = .verdict .success) :
    Grows artifact reached :=
  .more (Artifact.marker_of_advance advanced) (Artifact.history_of_advance advanced)
    ⟨Artifact.ordinal_of_advance advanced, accepted⟩

theorem refresh {reread : Artifact} {files : FileSystem} (grows : Grows artifact reached)
    (refreshed : reached.refresh files = .ok reread) : Grows artifact reread := by
  have marker := Artifact.marker_of_refresh refreshed
  have history := Artifact.history_of_refresh refreshed
  cases grows with
  | same sameMarker sameHistory =>
      exact .same (marker.trans sameMarker) (history.trans sameHistory)
  | more nextMarker nextHistory follows =>
      exact .more (marker.trans nextMarker) (history.trans nextHistory) follows

/-- Growing keeps a history in order. -/
theorem isOrderly (grows : Grows artifact reached) (orderly : IsOrderly artifact.history) :
    IsOrderly reached.history := by
  cases grows with
  | same _ history => exact history ▸ orderly
  | more _ history follows =>
      obtain ⟨first, rest, begins, start⟩ := orderly.begins
      rw [history]
      refine ⟨⟨first, rest ++ [_], by rw [begins, List.cons_append], start⟩, ?_⟩
      rw [Artifact.history, List.append_assoc]
      exact List.isChain_split.2
        ⟨orderly.follows, List.isChain_cons_cons.2 ⟨follows, List.isChain_singleton _⟩⟩

/-- Nothing grows after a final marker. -/
theorem history_of_isFinal (grows : Grows artifact reached) (final : artifact.marker.IsFinal) :
    reached.history = artifact.history ∧ reached.marker.IsFinal := by
  cases grows with
  | same marker history => exact ⟨history, marker ▸ final⟩
  | more _ _ follows => exact absurd follows final.not_follows

end Grows

/-! ## What one turn makes of an artifact -/

namespace Pipeline

variable (pipeline : Pipeline α)

theorem Rewriting.grows {stage : Stage} {next : Marker}
    {request : Call (World α) ToolError ToolOutput} {artifact : Artifact}
    {session : Session (World α)} {left : Left α Unit}
    (rewriting : Rewriting stage next request artifact session left)
    (accepted : next = .stapled → artifact.marker = .verdict .success) :
    Grows artifact left.1.2 := by
  cases rewriting with
  | refused | disordered => exact .refl
  | unreadable _ advanced => exact .of_advance advanced accepted
  | done _ advanced reread => exact (Grows.of_advance advanced accepted).refresh reread

theorem Packing.grows {archive : Path} {artifact : Artifact} {session : Session (World α)}
    {left : Left α Unit} (packing : Packing pipeline archive artifact session left) :
    Grows artifact left.1.2 := by
  cases packing with
  | refused | unwritten | disordered => exact .refl
  | done _ _ advanced => exact .of_advance advanced nofun

theorem package_grows (artifact : Artifact) (session : Session (World α)) :
    Grows artifact (pipeline.package artifact session).1.2 := by
  have ends := package_ends pipeline artifact session
  generalize pipeline.package artifact session = left at ends ⊢
  cases ends with
  | cancelled | missing | sameFile | unclaimed => exact .refl
  | failed _ _ _ packing => exact packing.grows
  | done _ _ _ packing => exact packing.grows

theorem submit_grows (archive : Path) (artifact : Artifact) (session : Session (World α)) :
    Grows artifact (pipeline.submit archive artifact session).1.2 := by
  have ends := submit_ends pipeline archive artifact session
  generalize pipeline.submit archive artifact session = left at ends ⊢
  cases ends with
  | cancelled | unnamed | uncredentialed | refused | unreadable | disordered => exact .refl
  | done _ _ _ _ _ advanced => exact .of_advance advanced nofun

theorem Concluding.grows {submission : Submission} {waited : Nat} {artifact reached : Artifact}
    {outcome : Outcome Verdict} {result : Except TrustError Unit}
    (concluding : Concluding submission waited artifact outcome (result, reached)) :
    Grows artifact reached := by
  cases concluding with
  | accepted advanced | rejected advanced | unknown advanced | timedOut advanced =>
      exact .of_advance advanced nofun
  | disordered | cancelled => exact .refl

/-- No operation does more to the markers than to add the one that follows. -/
theorem perform_grows (operation : Operation) (artifact : Artifact)
    (session : Session (World α)) :
    Grows artifact (pipeline.perform operation artifact session).1.2 := by
  cases operation with
  | sign =>
      have ends := sign_ends pipeline artifact session
      rw [perform]
      generalize pipeline.sign artifact session = left at ends ⊢
      cases ends with
      | cancelled | unnamed | missing => exact .refl
      | called _ _ rewriting => exact rewriting.grows nofun
  | verify => exact .refl
  | package =>
      rw [perform, Work.bind_pure_apply]
      exact pipeline.package_grows artifact session
  | submit archive =>
      rw [perform, Work.bind_pure_apply]
      exact pipeline.submit_grows archive artifact session
  | await submission =>
      obtain ⟨result, watched, reached, after, awaited, awaiting⟩ :=
        await_ends (ε := TrustError) pipeline submission artifact session
      rw [perform, Work.bind_pure_apply, awaited]
      cases awaiting with
      | uncredentialed => exact .refl
      | concluded _ _ _ concluding => exact concluding.grows
  | staple =>
      have ends := staple_ends pipeline artifact session
      rw [perform]
      generalize pipeline.staple artifact session = left at ends ⊢
      cases ends with
      | cancelled | unaccepted | missing => exact .refl
      | called _ accepted rewriting => exact rewriting.grows fun _ => accepted

/-! ## What one turn calls -/

/-- No ticket has been asked for. -/
def Unstapled (session : Session (World (α × Journal GatewayCall))) : Prop :=
  ∀ line ∈ session.journal, line.call.stage ≠ .staple

section Recorded

variable {artifact : Artifact} {session : Session (World (α × Journal GatewayCall))}

theorem Unstapled.calls {stage : Stage} {after : Session (World (α × Journal GatewayCall))}
    (before : Unstapled session) (calls : session.Calls stage after) (other : stage ≠ .staple) :
    Unstapled after := by
  intro line member
  rcases calls.stage_of_mem member with earlier | called
  · exact before line earlier
  · exact called ▸ other

theorem package_unstapled (before : Unstapled session) :
    Unstapled (pipeline.recorded.package artifact session).2 := by
  have ends := package_ends pipeline.recorded artifact session
  generalize pipeline.recorded.package artifact session = left at ends ⊢
  have packed {archive : Path} {left : Left (α × Journal GatewayCall) Unit}
      (packing : Packing pipeline.recorded archive artifact (session.discarding archive) left) :
      Unstapled left.2 := by
    obtain ⟨answer, journal⟩ := packing.called
    intro line member
    rw [journal] at member
    rcases List.mem_append.1 member with earlier | last
    · exact before line earlier
    · obtain rfl := List.mem_singleton.1 last
      exact nofun
  cases ends with
  | cancelled | missing | sameFile | unclaimed => exact before
  | failed _ _ _ packing => exact packed packing
  | done _ _ _ packing => exact packed packing

theorem staple_unstapled (unaccepted : artifact.marker ≠ .verdict .success)
    (before : Unstapled session) : Unstapled (pipeline.recorded.staple artifact session).2 := by
  have ends := staple_ends pipeline.recorded artifact session
  generalize pipeline.recorded.staple artifact session = left at ends ⊢
  cases ends with
  | cancelled | unaccepted | missing => exact before
  | called _ accepted _ => exact absurd accepted unaccepted

/-- A ticket is asked for only on an artifact that the authority has just accepted. -/
theorem perform_unstapled (operation : Operation)
    (unaccepted : artifact.marker ≠ .verdict .success) (before : Unstapled session) :
    Unstapled (pipeline.recorded.perform operation artifact session).2 := by
  cases operation with
  | sign => exact before.calls (pipeline.sign_calls artifact session) nofun
  | verify => exact before.calls (pipeline.verify_calls artifact session) nofun
  | package =>
      rw [perform, Work.bind_pure_apply]
      exact pipeline.package_unstapled before
  | submit archive =>
      rw [perform, Work.bind_pure_apply]
      exact before.calls (pipeline.submit_calls archive artifact session) nofun
  | await submission =>
      rw [perform, Work.bind_pure_apply]
      exact before.calls (pipeline.await_calls submission artifact session) nofun
  | staple => exact pipeline.staple_unstapled unaccepted before

end Recorded

/-- A recorded operation has the same result and leaves the same behind. -/
theorem perform_refines (operation : Operation) :
    Work.Refines World.unrecorded (pipeline.recorded.perform operation)
      (pipeline.perform operation) := by
  cases operation with
  | sign => exact pipeline.sign_refines
  | verify => exact .bind .get fun artifact => .act (pipeline.verify_refines artifact)
  | package => exact .bind pipeline.package_refines fun _ => .pure _
  | submit archive => exact .bind (pipeline.submit_refines archive) fun _ => .pure _
  | await submission => exact .bind (pipeline.await_refines submission) fun _ => .pure _
  | staple => exact pipeline.staple_refines

end Pipeline

/-! ## Any number of turns -/

namespace Turn

/-- What one turn does, given what has become of the artifact before it and in the end. -/
structure Respects (turn : Turn α) (before last : Artifact) : Prop where
  /-- The markers stay, or one is added. -/
  grows : (turn.result before).history = before.history ∨
    ∃ next, (turn.result before).history = before.history ++ [next]
  /-- A ticket is asked for only right after acceptance. -/
  accepted : ∀ line ∈ turn.calls before, line.call.stage = .staple →
    before.marker = .verdict .success
  /-- After a final marker the history stays as it is to the end. -/
  frozen : before.marker.IsFinal → last.history = before.history

theorem result_grows (turn : Turn α) (artifact : Artifact) :
    Grows artifact (turn.result artifact) :=
  turn.pipeline.perform_grows turn.operation artifact turn.session

theorem calls_accepted (turn : Turn α) {artifact : Artifact} {line : Line GatewayCall}
    (member : line ∈ turn.calls artifact) (staple : line.call.stage = .staple) :
    artifact.marker = .verdict .success := by
  by_contra unaccepted
  have fresh : Pipeline.Unstapled (turn.session.recording (κ := GatewayCall)) :=
    fun _ listed => absurd listed List.not_mem_nil
  exact turn.pipeline.perform_unstapled turn.operation unaccepted fresh line member staple

theorem isOrderly_results (turns : List (Turn α)) {artifact : Artifact}
    (orderly : IsOrderly artifact.history) : IsOrderly (results turns artifact).history := by
  induction turns generalizing artifact with
  | nil => exact orderly
  | cons turn rest inductionHypothesis =>
      exact inductionHypothesis ((turn.result_grows artifact).isOrderly orderly)

theorem history_results_of_isFinal (turns : List (Turn α)) {artifact : Artifact}
    (final : artifact.marker.IsFinal) : (results turns artifact).history = artifact.history := by
  induction turns generalizing artifact with
  | nil => rfl
  | cons turn rest inductionHypothesis =>
      obtain ⟨history, still⟩ := (turn.result_grows artifact).history_of_isFinal final
      exact (inductionHypothesis still).trans history

theorem results_append (earlier later : List (Turn α)) (artifact : Artifact) :
    results (earlier ++ later) artifact = results later (results earlier artifact) :=
  List.foldl_append

/-- An artifact that has just been opened has one marker. -/
theorem isOrderly_of_opened {files : FileSystem} {path : Path} {artifact : Artifact}
    (opened : Artifact.track files path = .ok artifact ∨
      ∃ trackingId, Artifact.adopt trackingId files path = .ok artifact) :
    IsOrderly artifact.history := by
  rcases opened with tracked | ⟨trackingId, adopted⟩
  · obtain ⟨sha256, -, rfl⟩ := Artifact.startingAt_eq_ok_iff.1 tracked
    exact ⟨⟨_, [], rfl, .inl rfl⟩, List.isChain_singleton _⟩
  · obtain ⟨sha256, -, rfl⟩ := Artifact.startingAt_eq_ok_iff.1 adopted
    exact ⟨⟨_, [], rfl, .inr ⟨trackingId, rfl⟩⟩, List.isChain_singleton _⟩

/-! ## A pipeline that is obliged -/

/-- A request that succeeds with some output. -/
def granted (output : String) : Call (World Unit) ToolError ToolOutput :=
  pure ⟨output, ""⟩

/-- A pipeline whose gateways do what they are asked for. -/
def obliged : Pipeline Unit where
  signer := ⟨fun _ _ _ => granted "", fun _ => granted ""⟩
  packager := fun _ _ => pure ()
  notary := ⟨fun _ _ _ => granted "", fun _ _ => granted "", fun _ => granted ""⟩
  settings := ⟨"identity", "bundle", none, .standard, .standard⟩

/-- The files with one binary. -/
def oneBinary : FileSystem := ⟨[(["agent"], .file .empty)], [], []⟩

/-- That binary as it comes. -/
def oneArtifact : Artifact := ⟨⟨"/agent"⟩, Sha256.hexDigest .empty, [], .unsigned⟩

/-- A turn of that pipeline. -/
def obligedTurn (operation : Pipeline.Operation) : Turn Unit where
  pipeline := obliged
  operation := operation
  session := ⟨⟨oneBinary, ()⟩, 0, Nanos.lastOfClock, .fresh, fun _ => 0, 0⟩

/-! ## All turns -/

/-- What any turns in any order make of an artifact: its markers are in order from the first to
the last, and every turn respects them. -/
theorem results_respect {files : FileSystem} {path : Path} {artifact : Artifact}
    (opened : Artifact.track files path = .ok artifact ∨
      ∃ trackingId, Artifact.adopt trackingId files path = .ok artifact)
    (turns : List (Turn α)) :
    IsOrderly (results turns artifact).history ∧
      ∀ earlier turn later, turns = earlier ++ turn :: later →
        turn.Respects (results earlier artifact) (results turns artifact) := by
  refine ⟨isOrderly_results turns (isOrderly_of_opened opened), ?_⟩
  rintro earlier turn later rfl
  constructor
  · cases turn.result_grows (results earlier artifact) with
    | same _ history => exact .inl history
    | more _ history _ => exact .inr ⟨_, history⟩
  · intro line member staple
    exact turn.calls_accepted member staple
  · intro final
    rw [results_append]
    exact history_results_of_isFinal (turn :: later) final

theorem results_respect_obliged :
    let turns := [.staple, .sign, .sign, .verify].map obligedTurn
    Artifact.track oneBinary ⟨"/agent"⟩ = .ok oneArtifact ∧
      (results turns oneArtifact).history = [.unsigned, .signed] ∧
      IsOrderly (results turns oneArtifact).history := by
  intro turns
  have tracked : Artifact.track oneBinary ⟨"/agent"⟩ = .ok oneArtifact :=
    Artifact.startingAt_eq_ok_iff.2
      ⟨_, Artifact.contentHash_eq_ok_iff.2 ⟨.empty, by rfl, rfl⟩, rfl⟩
  exact ⟨tracked, by decide +kernel, (results_respect (.inl tracked) turns).1⟩

end Turn

end Steward
