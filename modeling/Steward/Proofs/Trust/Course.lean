import Steward.Proofs.Files.Changes
import Steward.Proofs.Trust.Artifact
import Steward.Proofs.Trust.Ensures
import Steward.Proofs.Trust.Exits
import Steward.Proofs.Trust.Journal

/-!
# The calls of a run

Whatever the gateways answer, a run calls them in the order of its steps: each
at most once, only the query again and again.  A call is made when everything
that it depends on has happened, and a run that succeeds has attached the
ticket of the binary it was given.
-/

namespace Steward.Pipeline

variable {α : Type}

/-! ## What a run may do -/

/-- The steps of the calls in a journal. -/
def stagesOf (journal : Journal GatewayCall) : List Stage :=
  journal.map fun line => line.call.stage

/-- The steps up to the waiting. -/
def opening : List Stage := [.sign, .verify, .package, .submit]

/-- Calls come in the order of the steps, with any number of queries. -/
def InOrder (stages : List Stage) : Prop :=
  ∃ queries, stages <+: opening ++ List.replicate queries .poll ++ [.staple]

/-- Every call of a journal succeeded. -/
def AllSucceeded (journal : Journal GatewayCall) : Prop :=
  ∀ line ∈ journal, line.call.Succeeded

/-- What a call is made on, and what has to have happened before it. -/
def Permitted (binary : Path) (earlier : Journal GatewayCall) (line : Line GatewayCall) : Prop :=
  match line.call with
  | .sign target .. => target = binary ∧ earlier = []
  | .verify target _ => target = binary ∧ AllSucceeded earlier
  | .package target archive _ =>
    target = binary ∧ archive = archivePath binary ∧ AllSucceeded earlier ∧
      line.before.IsVacant archive
  | .submit archive .. =>
    archive = archivePath binary ∧ AllSucceeded earlier ∧ line.before.isFile archive = true
  | .query trackingId .. =>
    (∀ other ∈ earlier, other.call.stage ≠ .poll → other.call.Succeeded) ∧
      (∃ other ∈ earlier, other.call.trackingId? = some trackingId) ∧
        ∀ other ∈ earlier, ∀ status, other.call.status? = some status →
          status.isTerminal = false
  | .staple target _ =>
    target = binary ∧
      ∃ front last, earlier = front ++ [last] ∧ last.call.status? = some .success

/-- Why a run makes no call at all. -/
inductive Unprepared (pipeline : Pipeline α) (binary : Path) (files : FileSystem) : Prop
  /-- There is no identity to sign with. -/
  | identity (blank : Text.trim pipeline.settings.identity = "")
  /-- There is no bundle. -/
  | bundleId (blank : Text.trim pipeline.settings.bundleId = "")
  /-- There is no credential. -/
  | credential (missing : pipeline.settings.credential = none)
  /-- The archive would be the binary itself. -/
  | archive (same : (archivePath binary).sameParts binary = true)
  /-- The binary cannot be read. -/
  | binary (unreadable : ∀ bytes, files.read binary ≠ .ok bytes)

/-- The markers of a binary that has taken every step. -/
def fullCourse (binary : Path) (trackingId : TrackingId) : List Marker :=
  [.unsigned, .signed, .packaged (archivePath binary), .submitted trackingId,
    .verdict .success, .stapled]

/-- How the calls of a run that succeeded end, and the markers of its artifact. -/
def Finished (binary : Path) (journal : Journal GatewayCall) (artifact : Artifact) : Prop :=
  (∃ front last output, journal = front ++ [last] ∧ last.call = .staple binary (.ok output)) ∧
    ∃ trackingId, (∃ line ∈ journal, line.call.trackingId? = some trackingId) ∧
      artifact.history = fullCourse binary trackingId

/-! ## Journals that are in order -/

/-- The calls of a journal come in order, and each was permitted. -/
structure Lawful (binary : Path) (journal : Journal GatewayCall) : Prop where
  /-- The calls come in order. -/
  inOrder : InOrder (stagesOf journal)
  /-- Each call was permitted. -/
  permitted : journal.Each (Permitted binary)

/-- The artifact of a binary that has reached the given markers. -/
structure Marked (binary : Path) (markers : List Marker) (artifact : Artifact) : Prop where
  /-- It is the artifact of that binary. -/
  path : artifact.path = binary
  /-- It has reached these markers. -/
  history : artifact.history = markers

/-- A journal before the first query: calls in order, all of them successful. -/
structure Opening (binary : Path) (stages : List Stage) (journal : Journal GatewayCall) :
    Prop where
  /-- The steps of the calls. -/
  stages : stagesOf journal = stages
  /-- The calls succeeded. -/
  succeeded : AllSucceeded journal
  /-- Each call was permitted. -/
  permitted : journal.Each (Permitted binary)

/-- A journal with so many queries in it, none of them final. -/
structure Asked (binary : Path) (trackingId : TrackingId) (queries : Nat)
    (journal : Journal GatewayCall) : Prop where
  /-- The steps of the calls. -/
  stages : stagesOf journal = opening ++ List.replicate queries .poll
  /-- Everything before the queries succeeded. -/
  succeeded : ∀ line ∈ journal, line.call.stage ≠ .poll → line.call.Succeeded
  /-- The submission got its id. -/
  submitted : ∃ line ∈ journal, line.call.trackingId? = some trackingId
  /-- No query has told a final status. -/
  pending : ∀ line ∈ journal, ∀ status, line.call.status? = some status →
    status.isTerminal = false
  /-- Each call was permitted. -/
  permitted : journal.Each (Permitted binary)

/-- A journal whose last call is a query that told acceptance. -/
structure Accepted (binary : Path) (trackingId : TrackingId) (journal : Journal GatewayCall) :
    Prop where
  /-- The steps of the calls. -/
  stages : ∃ queries, stagesOf journal = opening ++ List.replicate queries .poll
  /-- The submission got its id. -/
  submitted : ∃ line ∈ journal, line.call.trackingId? = some trackingId
  /-- The last status is acceptance. -/
  accepted : ∃ front last, journal = front ++ [last] ∧ last.call.status? = some .success
  /-- Each call was permitted. -/
  permitted : journal.Each (Permitted binary)

variable {binary : Path} {trackingId : TrackingId} {queries : Nat} {stages : List Stage}
  {markers : List Marker} {journal : Journal GatewayCall} {line : Line GatewayCall}

@[simp]
theorem stagesOf_concat :
    stagesOf (journal ++ [line]) = stagesOf journal ++ [line.call.stage] := by
  simp [stagesOf]

theorem inOrder_of_isPrefix (early : stages <+: opening ++ List.replicate queries .poll) :
    InOrder stages :=
  ⟨queries, early.trans (List.prefix_append _ _)⟩

theorem inOrder_of_opening (early : stages <+: opening) : InOrder stages :=
  ⟨0, early.trans (List.prefix_append _ _)⟩

theorem Opening.lawful (opened : Opening binary stages journal) (early : stages <+: opening) :
    Lawful binary journal :=
  ⟨opened.stages ▸ inOrder_of_opening early, opened.permitted⟩

/-- One more call in order gives a lawful journal whatever its answer. -/
theorem Opening.lawful_concat (opened : Opening binary stages journal) (stage : Stage)
    (permitted : Permitted binary journal line) (called : line.call.stage = stage)
    (early : stages ++ [stage] <+: opening) : Lawful binary (journal ++ [line]) where
  inOrder := by
    rw [stagesOf_concat, opened.stages, called]
    exact inOrder_of_opening early
  permitted := Journal.each_concat.2 ⟨opened.permitted, permitted⟩

/-- One more call that succeeds brings the run one step further. -/
theorem Opening.concat (opened : Opening binary stages journal) (stage : Stage)
    (permitted : Permitted binary journal line) (called : line.call.stage = stage)
    (succeeded : line.call.Succeeded) :
    Opening binary (stages ++ [stage]) (journal ++ [line]) where
  stages := by rw [stagesOf_concat, opened.stages, called]
  succeeded := by
    intro other member
    rcases List.mem_append.1 member with earlier | last
    · exact opened.succeeded other earlier
    · obtain rfl := List.mem_singleton.1 last
      exact succeeded
  permitted := Journal.each_concat.2 ⟨opened.permitted, permitted⟩

/-- Once the archive is handed in, the queries begin. -/
theorem Opening.asked (opened : Opening binary opening journal)
    (submitted : ∃ line ∈ journal, line.call.trackingId? = some trackingId) :
    Asked binary trackingId 0 journal where
  stages := by simpa using opened.stages
  succeeded line member _ := opened.succeeded line member
  submitted := submitted
  pending := by
    -- None of the calls so far is a query, and only queries tell a status.
    intro line member status told
    have stage : line.call.stage ∈ opening :=
      opened.stages ▸ List.mem_map.2 ⟨line, member, rfl⟩
    cases call : line.call with
    | query => simp [call, GatewayCall.stage, opening] at stage
    | sign | verify | package | submit | staple => simp [call, GatewayCall.status?] at told
  permitted := opened.permitted

namespace Asked

variable {credential : Credential} {answer : Except ToolError ToolOutput}
  {files later : FileSystem}

theorem lawful (asked : Asked binary trackingId queries journal) : Lawful binary journal :=
  ⟨asked.stages ▸ inOrder_of_isPrefix (List.prefix_refl _), asked.permitted⟩

theorem permits (asked : Asked binary trackingId queries journal) :
    Permitted binary journal ⟨.query trackingId credential answer, files, later⟩ :=
  ⟨asked.succeeded, asked.submitted, asked.pending⟩

theorem stages_concat (asked : Asked binary trackingId queries journal) :
    stagesOf (journal ++ [⟨.query trackingId credential answer, files, later⟩]) =
      opening ++ List.replicate (queries + 1) .poll := by
  rw [stagesOf_concat, asked.stages, List.replicate_succ', List.append_assoc]
  rfl

theorem permitted_concat (asked : Asked binary trackingId queries journal) :
    Journal.Each (Permitted binary)
      (journal ++ [⟨.query trackingId credential answer, files, later⟩]) :=
  Journal.each_concat.2 ⟨asked.permitted, asked.permits⟩

/-- One more query is in order whatever it tells. -/
theorem lawful_concat (asked : Asked binary trackingId queries journal) :
    Lawful binary (journal ++ [⟨.query trackingId credential answer, files, later⟩]) where
  inOrder := by
    rw [asked.stages_concat]
    exact inOrder_of_isPrefix (List.prefix_refl _)
  permitted := asked.permitted_concat

/-- A query that tells nothing final may be followed by another. -/
theorem concat (asked : Asked binary trackingId queries journal)
    (pending : (statusIn answer).bind verdictOf = none) :
    Asked binary trackingId (queries + 1)
      (journal ++ [⟨.query trackingId credential answer, files, later⟩]) where
  stages := asked.stages_concat
  succeeded := by
    intro line member stage
    rcases List.mem_append.1 member with earlier | last
    · exact asked.succeeded line earlier stage
    · obtain rfl := List.mem_singleton.1 last
      exact absurd rfl stage
  submitted := by
    obtain ⟨line, member, submitted⟩ := asked.submitted
    exact ⟨line, List.mem_append_left _ member, submitted⟩
  pending := by
    intro line member status told
    rcases List.mem_append.1 member with earlier | last
    · exact asked.pending line earlier status told
    · obtain rfl := List.mem_singleton.1 last
      rw [GatewayCall.status?] at told
      rw [told] at pending
      rw [← verdictOf_isSome, show verdictOf status = none from pending]
      rfl
  permitted := asked.permitted_concat

/-- A query that tells acceptance is the last. -/
theorem accepted (asked : Asked binary trackingId queries journal)
    (success : (statusIn answer).bind verdictOf = some .success) :
    Accepted binary trackingId
      (journal ++ [⟨.query trackingId credential answer, files, later⟩]) where
  stages := ⟨queries + 1, asked.stages_concat⟩
  submitted := by
    obtain ⟨line, member, submitted⟩ := asked.submitted
    exact ⟨line, List.mem_append_left _ member, submitted⟩
  accepted := by
    refine ⟨journal, _, rfl, ?_⟩
    obtain ⟨status, told, verdict⟩ := Option.bind_eq_some_iff.1 success
    rw [verdictOf_eq_success_iff.1 verdict] at told
    exact told
  permitted := asked.permitted_concat

end Asked

namespace Accepted

variable {answer : Except ToolError ToolOutput} {files later : FileSystem}

theorem lawful (accepted : Accepted binary trackingId journal) : Lawful binary journal := by
  obtain ⟨queries, stages⟩ := accepted.stages
  exact ⟨stages ▸ inOrder_of_isPrefix (List.prefix_refl _), accepted.permitted⟩

/-- After acceptance the ticket may be attached. -/
theorem lawful_concat (accepted : Accepted binary trackingId journal) :
    Lawful binary (journal ++ [⟨.staple binary answer, files, later⟩]) where
  inOrder := by
    obtain ⟨queries, stages⟩ := accepted.stages
    exact ⟨queries, by rw [stagesOf_concat, stages]; exact List.prefix_refl _⟩
  permitted := Journal.each_concat.2 ⟨accepted.permitted, rfl, accepted.accepted⟩

end Accepted

end Steward.Pipeline
