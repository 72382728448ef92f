import Steward.Proofs.Session.Running

/-!
# Computations over a richer world

A world may hold more than a computation needs: a record of what was asked, a
count, a value of the caller's own.  Given a map that forgets the rest, a
computation over the richer world refines one over the poorer when forgetting
before it and forgetting after it come to the same.  Every primitive keeps
refinement, so an operation refines another as soon as the requests they make
do.
-/

namespace Steward

variable {α ω ω' ε ε' β γ σ : Type}

/-- A session whose world is seen through a map. -/
def Session.through (forget : ω → ω') (session : Session ω) : Session ω' :=
  { session with world := forget session.world }

/-- An exchange that gives the same answer in a richer world and leaves the same behind. -/
def Exchange.Refines (forget : ω → ω') (rich : Exchange ω β) (poor : Exchange ω' β) : Prop :=
  ∀ world, poor (forget world) =
    ⟨(rich world).answer, forget (rich world).world, (rich world).took, (rich world).fired⟩

/-- A computation that has the same result in a richer world and leaves the same behind. -/
def Act.Refines (forget : ω → ω') (rich : Act ω ε β) (poor : Act ω' ε β) : Prop :=
  ∀ session, poor (session.through forget) =
    ((rich session).1, (rich session).2.through forget)

/-! ## Exchanges -/

namespace Exchange.Refines

variable {forget : ω → ω'}

theorem pure (answer : β) :
    Exchange.Refines forget (pure answer : Exchange ω β) (pure answer) :=
  fun _ => rfl

theorem bind {rich : Exchange ω β} {poor : Exchange ω' β} {next : β → Exchange ω γ}
    {next' : β → Exchange ω' γ} (first : Exchange.Refines forget rich poor)
    (second : ∀ answer, Exchange.Refines forget (next answer) (next' answer)) :
    Exchange.Refines forget (rich >>= next) (poor >>= next') := by
  intro world
  simp only [Exchange.bind_apply, first world, second (rich world).answer (rich world).world]

/-- What is carried beside the world is carried beside the poorer world just as well. -/
theorem beside {rich : Exchange ω β} {poor : Exchange ω' β}
    (refines : Exchange.Refines forget rich poor) :
    Exchange.Refines (Prod.map forget id) (Exchange.beside (σ := σ) rich)
      (Exchange.beside poor) := by
  rintro ⟨world, carried⟩
  simp only [Exchange.beside, Prod.map_apply, id_eq, refines world]

theorem own (step : σ → σ) :
    Exchange.Refines (Prod.map forget id) (Exchange.own step) (Exchange.own step) :=
  fun _ => rfl

end Exchange.Refines

/-! ## Sessions -/

namespace Session

variable {forget : ω → ω'}

theorem exchange_through {rich : Exchange ω β} {poor : Exchange ω' β}
    (refines : Exchange.Refines forget rich poor) (session : Session ω) :
    (session.through forget).exchange poor =
      ((session.exchange rich).1, (session.exchange rich).2.through forget) := by
  simp only [exchange, through, refines session.world]

theorem pauseUntil_through (wake : Nat) (session : Session ω) :
    pauseUntil wake (session.through forget) =
      ((pauseUntil wake session).1, (pauseUntil wake session).2.through forget) := by
  fun_induction pauseUntil wake session with
  | case1 session fired =>
      rw [pauseUntil, if_pos (show (session.through forget).isCancelled = true from fired)]
  | case2 session live reached =>
      rw [pauseUntil, if_neg (show ¬(session.through forget).isCancelled = true from live),
        if_pos (show wake ≤ (session.through forget).now from reached)]
  | case3 session live waiting inductionHypothesis =>
      rw [pauseUntil, if_neg (show ¬(session.through forget).isCancelled = true from live),
        if_neg (show ¬wake ≤ (session.through forget).now from waiting)]
      exact inductionHypothesis

theorem restFor_through (session : Session ω) (span : Nat) :
    (session.through forget).restFor span =
      ((session.restFor span).1, (session.restFor span).2.through forget) :=
  pauseUntil_through (session.now + span) session

theorem pause_through (session : Session ω) (crash : ε) (span : Nat) :
    (session.through forget).pause crash span =
      ((session.pause crash span).1, (session.pause crash span).2.through forget) := by
  rw [pause_eq, pause_eq, restFor_through]
  by_cases untold : session.horizon < session.now + span
  · rw [if_pos untold]
    exact if_pos untold
  · rw [if_neg untold]
    exact if_neg untold

theorem pollFrom_through {probe : UInt32 → Call ω ε (Option β)}
    {probe' : UInt32 → Call ω' ε (Option β)}
    (refines : ∀ attempt, Exchange.Refines forget (probe attempt) (probe' attempt))
    (overrun : Nat → Option ε) (schedule : Schedule) (started : Nat) (attempts : UInt32)
    (session : Session ω) :
    pollFrom overrun schedule probe' started attempts (session.through forget) =
      ((pollFrom overrun schedule probe started attempts session).1,
        (pollFrom overrun schedule probe started attempts session).2.through forget) := by
  have probed (attempts : UInt32) (session : Session ω) :=
    exchange_through (refines (attempts + 1)) session
  fun_induction pollFrom overrun schedule probe started attempts session with
  | case1 attempts session fired =>
      rw [pollFrom, if_pos (show (session.through forget).isCancelled = true from fired)]
  | case2 attempts session live answered failure answer =>
      rw [pollFrom, if_neg (show ¬(session.through forget).isCancelled = true from live)]
      simp only [probed, show (session.exchange (probe (attempts + 1))).1 = _ from answer]
      rfl
  | case3 attempts session live answered value answer =>
      rw [pollFrom, if_neg (show ¬(session.through forget).isCancelled = true from live)]
      simp only [probed, show (session.exchange (probe (attempts + 1))).1 = _ from answer]
      rfl
  | case4 attempts session live answered pending elapsed late =>
      rw [pollFrom, if_neg (show ¬(session.through forget).isCancelled = true from live)]
      simp only [probed, show (session.exchange (probe (attempts + 1))).1 = _ from pending]
      rw [if_pos (show schedule.timeout ≤ (answered.2.through forget).now - started from late)]
      rfl
  | case5 attempts session live answered pending elapsed early span failure untold =>
      rw [pollFrom, if_neg (show ¬(session.through forget).isCancelled = true from live)]
      simp only [probed, show (session.exchange (probe (attempts + 1))).1 = _ from pending]
      rw [if_neg (show ¬schedule.timeout ≤ (answered.2.through forget).now - started from early)]
      rw [show overrun ((answered.2.through forget).now + min schedule.interval
        (schedule.timeout - ((answered.2.through forget).now - started))) = some failure
        from untold]
  | case6 attempts session live answered pending elapsed early span told rested undisturbed
      inductionHypothesis =>
      rw [pollFrom, if_neg (show ¬(session.through forget).isCancelled = true from live)]
      simp only [probed, show (session.exchange (probe (attempts + 1))).1 = _ from pending]
      rw [if_neg (show ¬schedule.timeout ≤ (answered.2.through forget).now - started from early)]
      rw [show overrun ((answered.2.through forget).now + min schedule.interval
        (schedule.timeout - ((answered.2.through forget).now - started))) = none from told]
      simp only [restFor_through]
      exact (if_pos (show rested.1 = true from undisturbed)).trans inductionHypothesis
  | case7 attempts session live answered pending elapsed early span told rested disturbed =>
      rw [pollFrom, if_neg (show ¬(session.through forget).isCancelled = true from live)]
      simp only [probed, show (session.exchange (probe (attempts + 1))).1 = _ from pending]
      rw [if_neg (show ¬schedule.timeout ≤ (answered.2.through forget).now - started from early)]
      rw [show overrun ((answered.2.through forget).now + min schedule.interval
        (schedule.timeout - ((answered.2.through forget).now - started))) = none from told]
      simp only [restFor_through]
      exact if_neg (show ¬rested.1 = true from disturbed)

end Session

/-! ## Computations -/

namespace Act.Refines

variable {forget : ω → ω'}

theorem pure (value : β) : Act.Refines forget (pure value : Act ω ε β) (pure value) :=
  fun _ => rfl

theorem throw (failure : ε) :
    Act.Refines forget (throw failure : Act ω ε β) (throw failure) :=
  fun _ => rfl

theorem bind {rich : Act ω ε β} {poor : Act ω' ε β} {next : β → Act ω ε γ}
    {next' : β → Act ω' ε γ} (first : Act.Refines forget rich poor)
    (second : ∀ value, Act.Refines forget (next value) (next' value)) :
    Act.Refines forget (rich >>= next) (poor >>= next') := by
  intro session
  rw [Act.bind_apply, Act.bind_apply, first session]
  rcases rich session with ⟨failure | value, after⟩
  · rfl
  · exact second value after

theorem ite {condition : Prop} [Decidable condition] {rich rich' : Act ω ε β}
    {poor poor' : Act ω' ε β} (positive : Act.Refines forget rich poor)
    (negative : Act.Refines forget rich' poor') :
    Act.Refines forget (if condition then rich else rich')
      (if condition then poor else poor') := by
  split
  · exact positive
  · exact negative

theorem attempt {request : Call ω ε' β} {request' : Call ω' ε' β}
    (refines : Exchange.Refines forget request request') :
    Act.Refines forget (Act.attempt request : Act ω ε _) (Act.attempt request') := by
  intro session
  rw [Act.attempt_apply, Act.attempt_apply, Session.exchange_through refines]

theorem isCancelled : Act.Refines forget (Act.isCancelled : Act ω ε _) Act.isCancelled :=
  fun _ => rfl

theorem pause (crash : ε) (span : Nat) :
    Act.Refines forget (Act.pause crash span) (Act.pause crash span) := by
  intro session
  rw [Act.pause_apply, Act.pause_apply, Session.pause_through]

/-- What is done next may depend on the session as far as the poorer world shows it. -/
theorem look {next : Session ω → Act ω ε γ} {next' : Session ω' → Act ω' ε γ}
    (second : ∀ session, Act.Refines forget (next session) (next' (session.through forget))) :
    Act.Refines forget (Act.look >>= next) (Act.look >>= next') :=
  fun session => second session session

theorem outcome {rich : Act ω ε' β} {poor : Act ω' ε' β}
    (refines : Act.Refines forget rich poor) :
    Act.Refines forget (rich.outcome : Act ω ε _) poor.outcome := by
  intro session
  rw [Act.outcome_apply, Act.outcome_apply, refines session]

theorem poll {probe : UInt32 → Call ω ε (Option β)} {probe' : UInt32 → Call ω' ε (Option β)}
    (refines : ∀ attempt, Exchange.Refines forget (probe attempt) (probe' attempt)) (crash : ε)
    (schedule : Schedule) :
    Act.Refines forget (Act.poll crash schedule probe) (Act.poll crash schedule probe') :=
  fun session =>
    Session.pollFrom_through refines (session.overrun crash) schedule session.now 0 session

theorem pollToDate {probe : UInt32 → Call ω ε (Option β)}
    {probe' : UInt32 → Call ω' ε (Option β)}
    (refines : ∀ attempt, Exchange.Refines forget (probe attempt) (probe' attempt))
    (schedule : Schedule) :
    Act.Refines forget (Act.pollToDate schedule probe) (Act.pollToDate schedule probe') :=
  fun session => Session.pollFrom_through refines (fun _ => none) schedule session.now 0 session

theorem carrying (own : σ) {rich : Act (ω × σ) ε' β} {poor : Act (ω' × σ) ε' β}
    (refines : Act.Refines (Prod.map forget id) rich poor) :
    Act.Refines forget (Act.carrying own rich : Act ω ε _) (Act.carrying own poor) := by
  intro session
  have same := refines (session.carrying own)
  simp only [Act.carrying]
  rw [show (session.through forget).carrying own =
    (session.carrying own).through (Prod.map forget id) from rfl, same]
  rfl

end Act.Refines

end Steward
