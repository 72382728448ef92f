import Steward.Proofs.Session.Gaps

/-!
# What a computation and its calls keep

A property of the files that the calls of a computation keep, and that its own
changes keep, is there throughout; so every call is made where the property
holds.
-/

namespace Steward

variable {α ε ε' β γ κ : Type} {P : FileSystem → Prop} {wanted : Line κ → Prop}

/-- If a property of the files holds in one session it holds in a later one, and the calls between
the two are as wanted. -/
def Session.Keeps (P : FileSystem → Prop) (wanted : Line κ → Prop)
    (first last : Session (World (α × Journal κ))) : Prop :=
  P first.world.files →
    P last.world.files ∧
      ∃ lines, last.journal = first.journal ++ lines ∧ ∀ line ∈ lines, wanted line

/-- A computation keeps a property of the files, and its calls are as wanted where it holds. -/
def Act.Keeps (P : FileSystem → Prop) (wanted : Line κ → Prop)
    (act : Act (World (α × Journal κ)) ε β) : Prop :=
  ∀ session : Session (World (α × Journal κ)), session.Keeps P wanted (act session).2

/-- A request keeps a property of the files, and its line is as wanted. -/
def Exchange.Spares (P : FileSystem → Prop) (wanted : Line κ → Prop) (note : β → κ)
    (request : Exchange (World α) β) : Prop :=
  ∀ world, P world.files →
    P (request world).world.files ∧
      wanted ⟨note (request world).answer, world.files, (request world).world.files⟩

namespace Session.Keeps

variable {first middle last : Session (World (α × Journal κ))}

theorem of_world_eq (same : last.world = first.world) : first.Keeps P wanted last := by
  intro before
  refine ⟨same ▸ before, [], ?_, nofun⟩
  rw [journal, same, List.append_nil]
  rfl

theorem refl (session : Session (World (α × Journal κ))) : session.Keeps P wanted session :=
  of_world_eq rfl

theorem trans (earlier : first.Keeps P wanted middle) (later : middle.Keeps P wanted last) :
    first.Keeps P wanted last := by
  intro before
  rcases earlier before with ⟨between, lines, grown, each⟩
  rcases later between with ⟨after, more, grownMore, eachMore⟩
  refine ⟨after, lines ++ more, by rw [grownMore, grown, List.append_assoc], ?_⟩
  intro line member
  rcases List.mem_append.1 member with here | there
  · exact each line here
  · exact eachMore line there

theorem exchange {note : β → κ} {request : Exchange (World α) β}
    (spares : request.Spares P wanted note) (session : Session (World (α × Journal κ))) :
    session.Keeps P wanted (session.exchange (request.recorded note)).2 := by
  intro before
  rcases spares session.world.unrecorded before with ⟨after, line⟩
  refine ⟨after, _, Session.journal_exchange note request session, ?_⟩
  intro other member
  rw [List.mem_singleton] at member
  subst member
  exact line

end Session.Keeps

namespace Act.Keeps

theorem pure (value : β) :
    Act.Keeps P wanted (pure value : Act (World (α × Journal κ)) ε β) :=
  Session.Keeps.refl

theorem throw (failure : ε) :
    Act.Keeps P wanted (throw failure : Act (World (α × Journal κ)) ε β) :=
  Session.Keeps.refl

theorem bind {act : Act (World (α × Journal κ)) ε β}
    {next : β → Act (World (α × Journal κ)) ε γ} (first : Act.Keeps P wanted act)
    (second : ∀ value, Act.Keeps P wanted (next value)) : Act.Keeps P wanted (act >>= next) := by
  intro session
  have kept := first session
  rw [Act.bind_apply]
  generalize act session = left at kept ⊢
  rcases left with ⟨failure | value, after⟩
  · exact kept
  · exact kept.trans (second value after)

theorem ite {condition : Prop} [Decidable condition]
    {act other : Act (World (α × Journal κ)) ε β} (positive : Act.Keeps P wanted act)
    (negative : Act.Keeps P wanted other) :
    Act.Keeps P wanted (if condition then act else other) := by
  split
  · exact positive
  · exact negative

theorem attempt {note : Except ε' β → κ} {request : Call (World α) ε' β}
    (spares : Exchange.Spares P wanted note request) :
    Act.Keeps P wanted (Act.attempt (Exchange.recorded note request) : Act _ ε _) :=
  Session.Keeps.exchange spares

theorem isCancelled :
    Act.Keeps P wanted (Act.isCancelled : Act (World (α × Journal κ)) ε _) :=
  Session.Keeps.refl

theorem pause (crash : ε) (span : Nat) :
    Act.Keeps P wanted (Act.pause crash span : Act (World (α × Journal κ)) ε _) :=
  fun session => .of_world_eq (session.world_pause crash span)

theorem outcome {act : Act (World (α × Journal κ)) ε' β} (keeps : Act.Keeps P wanted act) :
    Act.Keeps P wanted (act.outcome : Act _ ε _) :=
  keeps

/-- What is done next may depend on the files, which have the property. -/
theorem files_bind {next : FileSystem → Act (World (α × Journal κ)) ε β}
    (keeps : ∀ files, P files → Act.Keeps P wanted (next files)) :
    Act.Keeps P wanted (Act.files >>= next) :=
  fun session before => keeps session.world.files before session before

theorem poll {probe : UInt32 → Call (World (α × Journal κ)) ε (Option β)}
    (probes : ∀ attempt session,
      Session.Keeps P wanted session (session.exchange (probe attempt)).2)
    (crash : ε) (schedule : Schedule) :
    Act.Keeps P wanted (Act.poll crash schedule probe) := by
  intro session
  rcases session.poll_ends (session.overrun crash) schedule probe with
    ⟨last, final, polled, ended⟩
  exact ended.keeps_throughout polled (.refl session)
    (fun _ _ earlier => earlier.trans (probes _ _)) fun _ _ earlier => earlier

end Act.Keeps

end Steward
