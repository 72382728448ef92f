import Steward.Proofs.Session.Polling
import Steward.Session.World

/-!
# Running computations

A computation is run on a session.  Each primitive is stated here as what it
makes of the session, so that later proofs run an operation by rewriting and
never look into the monads.
-/

namespace Steward

variable {α ω ε ε' β γ : Type}

theorem Exchange.map_apply (f : β → γ) (request : Exchange ω β) (world : ω) :
    (f <$> request) world =
      ⟨f (request world).answer, (request world).world, (request world).took,
        (request world).fired⟩ := by
  rw [map_eq_pure_bind, Exchange.bind_apply]
  simp only [Exchange.pure_apply, Nat.add_zero, Bool.or_false]

/-- What is made of an answer makes no difference to what is left behind. -/
theorem Session.exchange_map (f : β → γ) (request : Exchange ω β) (session : Session ω) :
    session.exchange (f <$> request) =
      (f (session.exchange request).1, (session.exchange request).2) := by
  rw [Session.exchange, Exchange.map_apply]
  rfl

/-- A pause is a rest or crashes. -/
theorem Session.pause_eq (session : Session ω) (crash : ε) (span : Nat) :
    session.pause crash span =
      if session.horizon < session.now + span then (.error crash, session)
      else (.ok (session.restFor span).1, (session.restFor span).2) := by
  rw [pause, overrun]
  by_cases untold : session.horizon < session.now + span
  · rw [if_pos untold, if_pos untold]
  · rw [if_neg untold, if_neg untold]

@[simp]
theorem Session.world_pause (session : Session ω) (crash : ε) (span : Nat) :
    (session.pause crash span).2.world = session.world := by
  rw [pause_eq]
  split
  · rfl
  · exact session.world_restFor span

/-- A session with other files. -/
def Session.withFiles (session : Session (World α)) (files : FileSystem) : Session (World α) :=
  { session with world := { session.world with files := files } }

@[simp]
theorem Session.files_withFiles (session : Session (World α)) (files : FileSystem) :
    (session.withFiles files).world.files = files :=
  rfl

namespace Act

@[simp]
theorem pure_apply (value : β) (session : Session ω) :
    (pure value : Act ω ε β) session = (.ok value, session) :=
  rfl

@[simp]
theorem throw_apply (failure : ε) (session : Session ω) :
    (throw failure : Act ω ε β) session = (.error failure, session) :=
  rfl

theorem bind_apply (act : Act ω ε β) (next : β → Act ω ε γ) (session : Session ω) :
    (act >>= next) session =
      match act session with
      | (.ok value, after) => next value after
      | (.error failure, after) => (.error failure, after) := by
  show ExceptT.bindCont next (act session).1 (act session).2 = _
  rcases act session with ⟨_ | _, after⟩ <;> rfl

theorem bind_pure_apply (act : Act ω ε β) (f : β → γ) (session : Session ω) :
    (act >>= fun value => pure (f value)) session =
      ((act session).1.map f, (act session).2) := by
  rw [bind_apply]
  rcases act session with ⟨_ | _, after⟩ <;> rfl

@[simp]
theorem attempt_apply (request : Call ω ε' β) (session : Session ω) :
    (Act.attempt request : Act ω ε _) session =
      (.ok (session.exchange request).1, (session.exchange request).2) :=
  rfl

@[simp]
theorem look_apply (session : Session ω) :
    (Act.look : Act ω ε _) session = (.ok session, session) :=
  rfl

@[simp]
theorem isCancelled_apply (session : Session ω) :
    (Act.isCancelled : Act ω ε _) session = (.ok session.isCancelled, session) :=
  rfl

@[simp]
theorem pause_apply (crash : ε) (span : Nat) (session : Session ω) :
    Act.pause crash span session = session.pause crash span :=
  rfl

@[simp]
theorem outcome_apply (act : Act ω ε' β) (session : Session ω) :
    (act.outcome : Act ω ε _) session = (.ok (act session).1, (act session).2) :=
  rfl

@[simp]
theorem poll_apply (crash : ε) (schedule : Schedule) (probe : UInt32 → Call ω ε (Option β))
    (session : Session ω) :
    Act.poll crash schedule probe session =
      session.poll (session.overrun crash) schedule probe :=
  rfl

@[simp]
theorem pollToDate_apply (schedule : Schedule) (probe : UInt32 → Call ω ε (Option β))
    (session : Session ω) :
    Act.pollToDate schedule probe session = session.poll Session.noOverrun schedule probe :=
  rfl

@[simp]
theorem files_apply (session : Session (World α)) :
    (Act.files : Act (World α) ε _) session = (.ok session.world.files, session) :=
  rfl

@[simp]
theorem onFiles_apply (act : FileAct ε β) (session : Session (World α)) :
    Act.onFiles act session =
      ((act session.world.files).1, session.withFiles (act session.world.files).2) :=
  rfl

end Act

end Steward
