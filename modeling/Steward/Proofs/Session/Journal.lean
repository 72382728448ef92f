import Steward.Proofs.Session.Refinement

/-!
# Journals of calls

To say which calls an operation makes, every request is recorded in a journal
that is kept beside the agent.  Recording changes nothing else: a computation
over recorded requests refines the one over the requests themselves, so what
the journal of the former holds are the calls of the latter.
-/

namespace Steward

variable {α β ε κ : Type}

/-- A line of a journal: a call with its answer, the files it found and the files it left. -/
structure Line (κ : Type) where
  /-- The call and its answer. -/
  call : κ
  /-- The files when it was made. -/
  before : FileSystem
  /-- The files when it was answered. -/
  after : FileSystem

/-- The calls made so far, oldest first. -/
abbrev Journal (κ : Type) := List (Line κ)

/-- The world without the journal. -/
def World.unrecorded (world : World (α × Journal κ)) : World α :=
  ⟨world.files, world.agent.1⟩

/-- A request that adds a line to the journal; `note` tells the call from the answer. -/
def Exchange.recorded (note : β → κ) (request : Exchange (World α) β) :
    Exchange (World (α × Journal κ)) β := fun world =>
  let reply := request world.unrecorded
  ⟨reply.answer,
    ⟨reply.world.files,
      (reply.world.agent,
        world.agent.2 ++ [⟨note reply.answer, world.files, reply.world.files⟩])⟩,
    reply.took, reply.fired⟩

namespace Session

/-- A session that begins a journal. -/
def recording (session : Session (World α)) : Session (World (α × Journal κ)) :=
  { session with world := ⟨session.world.files, (session.world.agent, [])⟩ }

/-- The journal of a session. -/
def journal (session : Session (World (α × Journal κ))) : Journal κ :=
  session.world.agent.2

@[simp]
theorem recording_through (session : Session (World α)) :
    (session.recording (κ := κ)).through World.unrecorded = session :=
  rfl

@[simp]
theorem files_recording (session : Session (World α)) :
    (session.recording (κ := κ)).world.files = session.world.files :=
  rfl

/-- A recorded request adds one line. -/
theorem journal_exchange (note : β → κ) (request : Exchange (World α) β)
    (session : Session (World (α × Journal κ))) :
    (session.exchange (request.recorded note)).2.journal =
      session.journal ++
        [⟨note (session.exchange (request.recorded note)).1, session.world.files,
          (session.exchange (request.recorded note)).2.world.files⟩] :=
  rfl

theorem journal_of_exchange (note : β → κ) {request : Exchange (World α) β} {answer : β}
    {session after : Session (World (α × Journal κ))}
    (answered : session.exchange (request.recorded note) = (answer, after)) :
    after.journal =
      session.journal ++ [⟨note answer, session.world.files, after.world.files⟩] := by
  have recorded := journal_exchange note request session
  rwa [answered] at recorded

end Session

/-! ## Recording changes nothing else -/

theorem Exchange.recorded_refines (note : β → κ) (request : Exchange (World α) β) :
    Exchange.Refines World.unrecorded (request.recorded note) request :=
  fun _ => rfl

theorem Act.Refines.files :
    Act.Refines (World.unrecorded (α := α) (κ := κ)) (Act.files : Act _ ε _) Act.files :=
  fun _ => rfl

theorem Act.Refines.onFiles (act : FileAct ε β) :
    Act.Refines (World.unrecorded (α := α) (κ := κ)) (Act.onFiles act) (Act.onFiles act) :=
  fun _ => rfl

/-! ## Lines and the lines before them -/

/-- Every line of a journal stands in a relation to the lines before it. -/
def Journal.Each (relation : Journal κ → Line κ → Prop) (journal : Journal κ) : Prop :=
  ∀ earlier line later, journal = earlier ++ line :: later → relation earlier line

namespace Journal

variable {relation : Journal κ → Line κ → Prop}

theorem each_nil : Each relation [] := by
  intro earlier line later split
  simp at split

theorem each_concat {journal : Journal κ} {line : Line κ} :
    Each relation (journal ++ [line]) ↔ Each relation journal ∧ relation journal line := by
  constructor
  · intro each
    refine ⟨?_, each journal line [] rfl⟩
    rintro earlier inner later rfl
    exact each earlier inner (later ++ [line]) (by simp)
  · rintro ⟨each, last⟩ earlier inner later split
    rcases List.eq_nil_or_concat later with rfl | ⟨front, final, rfl⟩
    · obtain ⟨rfl, same⟩ := List.append_inj' split rfl
      cases same
      exact last
    · have regrouped : journal ++ [line] = (earlier ++ inner :: front) ++ [final] := by
        simpa using split
      obtain ⟨rfl, -⟩ := List.append_inj' regrouped rfl
      exact each earlier inner front rfl

end Journal

end Steward
