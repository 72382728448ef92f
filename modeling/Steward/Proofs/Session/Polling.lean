import Steward.Session.Poll

/-!
# The course of a poll

A poll comes from one session to the next as long as its probes are pending and
its rests are undisturbed, and then ends in one of six ways.  `Polled` says
which sessions it comes through and `PollEnd` how it ends; together they are
all that a poll can do.
-/

namespace Steward

variable {ω ε β : Type}

namespace Session

/-! ## Pauses -/

/-- Pausing only lets time pass. -/
theorem pauseUntil_rests {P : Session ω → Prop}
    (rest : ∀ session span, P session → P (session.rest span)) (wake : Nat)
    (session : Session ω) (before : P session) : P (pauseUntil wake session).2 := by
  fun_induction pauseUntil wake session with
  | case1 => exact before
  | case2 => exact before
  | case3 session _ _ inductionHypothesis => exact inductionHypothesis (rest _ _ before)

@[simp]
theorem world_restFor (session : Session ω) (span : Nat) :
    (session.restFor span).2.world = session.world :=
  pauseUntil_rests (P := fun later => later.world = session.world)
    (fun _ _ same => same) _ session rfl

theorem isCancelled_pauseUntil {wake : Nat} {session : Session ω}
    (disturbed : (pauseUntil wake session).1 = false) :
    (pauseUntil wake session).2.isCancelled = true := by
  fun_induction pauseUntil wake session with
  | case1 session fired => exact fired
  | case2 => simp at disturbed
  | case3 session _ _ inductionHypothesis => exact inductionHypothesis disturbed

/-- A rest is disturbed only by the token. -/
theorem isCancelled_restFor {session : Session ω} {span : Nat}
    (disturbed : (session.restFor span).1 = false) :
    (session.restFor span).2.isCancelled = true :=
  isCancelled_pauseUntil disturbed

/-- A rest in a session whose token has fired ends at once. -/
theorem restFor_of_fired {session : Session ω} (fired : session.isCancelled = true) (span : Nat) :
    session.restFor span = (false, session) := by
  rw [restFor, pauseUntil, if_pos fired]

theorem overrun_eq_some_iff {session : Session ω} {crash failure : ε} {wake : Nat} :
    session.overrun crash wake = some failure ↔ session.horizon < wake ∧ crash = failure := by
  by_cases beyond : session.horizon < wake
  · simp [overrun, beyond]
  · simp [overrun, beyond]

/-! ## Probes -/

variable (overrun : Nat → Option ε) (schedule : Schedule) (probe : UInt32 → Call ω ε (Option β))
  (started : Nat)

/-- The session after the probe that follows `attempts` others. -/
def probed (attempts : UInt32) (session : Session ω) : Session ω :=
  (session.exchange (probe (attempts + 1))).2

/-- How long a poll is to pause after a pending probe. -/
def spanAfter (session : Session ω) : Nat :=
  min schedule.interval (schedule.timeout - (session.now - started))

/-- When the pause after a pending probe is to end. -/
def wakeAfter (session : Session ω) : Nat :=
  session.now + spanAfter schedule started session

/-- How long a poll rests after a pending probe. -/
def restAfter (session : Session ω) : Nat :=
  max 1 (spanAfter schedule started session)

/-- The sessions that a poll comes through right before a probe, with the number of probes made
by then. -/
inductive Polled (first : UInt32) (origin : Session ω) : UInt32 → Session ω → Prop
  | start : Polled first origin first origin
  | again {attempts : UInt32} {session : Session ω}
      (earlier : Polled first origin attempts session) (live : session.isCancelled = false)
      (pending : (session.exchange (probe (attempts + 1))).1 = .ok none)
      (early : (probed probe attempts session).now - started < schedule.timeout)
      (told : overrun (wakeAfter schedule started (probed probe attempts session)) = none)
      (undisturbed : ((probed probe attempts session).restFor
        (restAfter schedule started (probed probe attempts session))).1 = true) :
      Polled first origin (attempts + 1)
        ((probed probe attempts session).restFor
          (restAfter schedule started (probed probe attempts session))).2

/-- How a poll ends in a session that it has come to. -/
inductive PollEnd (attempts : UInt32) (session : Session ω) :
    Except ε (Outcome β) × Session ω → Prop
  | cancelled (fired : session.isCancelled = true) :
      PollEnd attempts session (.ok (.cancelled attempts), session)
  | failed {failure : ε} (live : session.isCancelled = false)
      (answer : (session.exchange (probe (attempts + 1))).1 = .error failure) :
      PollEnd attempts session (.error failure, probed probe attempts session)
  | ready {value : β} (live : session.isCancelled = false)
      (answer : (session.exchange (probe (attempts + 1))).1 = .ok (some value)) :
      PollEnd attempts session (.ok (.ready value), probed probe attempts session)
  | timedOut (live : session.isCancelled = false)
      (pending : (session.exchange (probe (attempts + 1))).1 = .ok none)
      (late : schedule.timeout ≤ (probed probe attempts session).now - started) :
      PollEnd attempts session
        (.ok (.timedOut (attempts + 1) ((probed probe attempts session).now - started)),
          probed probe attempts session)
  | crashed {failure : ε} (live : session.isCancelled = false)
      (pending : (session.exchange (probe (attempts + 1))).1 = .ok none)
      (early : (probed probe attempts session).now - started < schedule.timeout)
      (untold : overrun (wakeAfter schedule started (probed probe attempts session)) =
        some failure) :
      PollEnd attempts session (.error failure, probed probe attempts session)
  | disturbed (live : session.isCancelled = false)
      (pending : (session.exchange (probe (attempts + 1))).1 = .ok none)
      (early : (probed probe attempts session).now - started < schedule.timeout)
      (told : overrun (wakeAfter schedule started (probed probe attempts session)) = none)
      (fired : ((probed probe attempts session).restFor
        (restAfter schedule started (probed probe attempts session))).1 = false) :
      PollEnd attempts session
        (.ok (.cancelled (attempts + 1)),
          ((probed probe attempts session).restFor
            (restAfter schedule started (probed probe attempts session))).2)

/-- The rests of a poll: the session in which it asks for one, and for how long. -/
inductive Rests (first : UInt32) (origin : Session ω) : Session ω → Nat → Prop
  | after {attempts : UInt32} {session : Session ω}
      (polled : Polled overrun schedule probe started first origin attempts session)
      (live : session.isCancelled = false)
      (pending : (session.exchange (probe (attempts + 1))).1 = .ok none)
      (early : (probed probe attempts session).now - started < schedule.timeout) :
      Rests first origin (probed probe attempts session)
        (restAfter schedule started (probed probe attempts session))

variable {overrun schedule probe started}

/-- What every pending probe and every rest keep holds in every session a poll comes through. -/
theorem Polled.keeps {P : Session ω → Prop} {first attempts : UInt32} {origin session : Session ω}
    (polled : Polled overrun schedule probe started first origin attempts session)
    (before : P origin)
    (pending : ∀ attempts session, P session →
      (session.exchange (probe (attempts + 1))).1 = .ok none → P (probed probe attempts session))
    (rest : ∀ session span, P session → P (session.rest span)) : P session := by
  induction polled with
  | start => exact before
  | again _ _ answer _ _ _ inductionHypothesis =>
      exact pauseUntil_rests rest _ _ (pending _ _ inductionHypothesis answer)

theorem now_le_probed (attempts : UInt32) (session : Session ω) :
    session.now ≤ (probed probe attempts session).now :=
  now_le_exchange _ _

/-- Time goes forward as a poll goes on. -/
theorem Polled.now_le {first attempts : UInt32} {origin session : Session ω}
    (polled : Polled overrun schedule probe started first origin attempts session) :
    origin.now ≤ session.now := by
  apply polled.keeps (P := fun later => origin.now ≤ later.now) (Nat.le_refl _)
  · intro attempts session forward _
    exact Nat.le_trans forward (now_le_probed attempts session)
  · intro session span forward
    exact Nat.le_trans forward (Nat.le_trans (Nat.le_add_right _ _) (Nat.le_add_right _ _))

/-- A poll whose first probe is not pending comes through no other session. -/
theorem Polled.eq_start {first attempts : UInt32} {origin session : Session ω}
    (polled : Polled overrun schedule probe started first origin attempts session)
    (settled : (origin.exchange (probe (first + 1))).1 ≠ .ok none) :
    attempts = first ∧ session = origin := by
  induction polled with
  | start => exact ⟨rfl, rfl⟩
  | again _ _ pending _ _ _ inductionHypothesis =>
    rcases inductionHypothesis with ⟨rfl, rfl⟩
    exact absurd pending settled

/-- A poll whose first probe gives a value ends with it. -/
theorem PollEnd.ready_of_first {attempts last : UInt32} {origin session : Session ω} {value : β}
    {ended : Except ε (Outcome β) × Session ω}
    (polled : Polled overrun schedule probe started attempts origin last session)
    (pollEnd : PollEnd overrun schedule probe started last session ended)
    (live : origin.isCancelled = false)
    (answer : (origin.exchange (probe (attempts + 1))).1 = .ok (some value)) :
    ended = (.ok (.ready value), probed probe attempts origin) := by
  have settled : (origin.exchange (probe (attempts + 1))).1 ≠ .ok none := by simp [answer]
  rcases polled.eq_start settled with ⟨rfl, rfl⟩
  cases pollEnd with
  | cancelled fired => simp [live] at fired
  | failed _ failed => simp [answer] at failed
  | ready _ given =>
    rw [answer] at given
    cases given
    rfl
  | timedOut _ pending => exact absurd pending settled
  | crashed _ pending => exact absurd pending settled
  | disturbed _ pending => exact absurd pending settled

/-- A poll whose last probe is pending ends because its time is over, because its next pause would
end too late to be told, or because of the token. -/
theorem PollEnd.of_pending {attempts : UInt32} {session : Session ω}
    {ended : Except ε (Outcome β) × Session ω}
    (pollEnd : PollEnd overrun schedule probe started attempts session ended)
    (pending : (session.exchange (probe (attempts + 1))).1 = .ok none) :
    (∃ made elapsed, ended.1 = .ok (.timedOut made elapsed)) ∨
      (∃ made, ended.1 = .ok (.cancelled made) ∧ ended.2.isCancelled = true) ∨
        ∃ wake failure, overrun wake = some failure ∧ ended.1 = .error failure := by
  cases pollEnd with
  | cancelled fired => exact .inr (.inl ⟨_, rfl, fired⟩)
  | failed _ failed => simp [pending] at failed
  | ready _ given => simp [pending] at given
  | timedOut => exact .inl ⟨_, _, rfl⟩
  | crashed _ _ _ untold => exact .inr (.inr ⟨_, _, untold, rfl⟩)
  | disturbed _ _ _ _ fired => exact .inr (.inl ⟨_, rfl, isCancelled_restFor fired⟩)

/-- What every probe and every rest keep holds where a poll ends. -/
theorem PollEnd.keeps {P : Session ω → Prop} {attempts : UInt32} {session : Session ω}
    {ended : Except ε (Outcome β) × Session ω}
    (pollEnd : PollEnd overrun schedule probe started attempts session ended) (before : P session)
    (asked : ∀ attempts session, P session → P (probed probe attempts session))
    (rest : ∀ session span, P session → P (session.rest span)) : P ended.2 := by
  cases pollEnd with
  | cancelled => exact before
  | failed | ready | timedOut | crashed => exact asked _ _ before
  | disturbed => exact pauseUntil_rests rest _ _ (asked _ _ before)

/-- What holds where a poll begins, and stays when it asks and when it rests, holds where it has
ended. -/
theorem PollEnd.keeps_throughout {P : Session ω → Prop} {first attempts : UInt32}
    {origin session : Session ω} {ended : Except ε (Outcome β) × Session ω}
    (pollEnd : PollEnd overrun schedule probe started attempts session ended)
    (polled : Polled overrun schedule probe started first origin attempts session)
    (before : P origin)
    (asked : ∀ attempts session, P session → P (probed probe attempts session))
    (rest : ∀ session span, P session → P (session.rest span)) : P ended.2 :=
  have reached : P session :=
    polled.keeps before (fun attempts session holds _ => asked attempts session holds) rest
  pollEnd.keeps reached asked rest

/-- A poll that has come to a session comes through some more and then ends. -/
theorem pollFrom_ends {first attempts : UInt32} {origin session : Session ω}
    (polled : Polled overrun schedule probe started first origin attempts session) :
    ∃ last final, Polled overrun schedule probe started first origin last final ∧
      PollEnd overrun schedule probe started last final
        (pollFrom overrun schedule probe started attempts session) := by
  fun_induction pollFrom overrun schedule probe started attempts session with
  | case1 attempts session fired => exact ⟨attempts, session, polled, .cancelled fired⟩
  | case2 attempts session live answered failure answer =>
      exact ⟨attempts, session, polled, .failed (Bool.of_not_eq_true live) answer⟩
  | case3 attempts session live answered value answer =>
      exact ⟨attempts, session, polled, .ready (Bool.of_not_eq_true live) answer⟩
  | case4 attempts session live answered pending elapsed late =>
      exact ⟨attempts, session, polled, .timedOut (Bool.of_not_eq_true live) pending late⟩
  | case5 attempts session live answered pending elapsed early span failure untold =>
      exact ⟨attempts, session, polled,
        .crashed (Bool.of_not_eq_true live) pending (Nat.lt_of_not_le early) untold⟩
  | case6 attempts session live answered pending elapsed early span told rested undisturbed
      inductionHypothesis =>
      exact inductionHypothesis
        (.again polled (Bool.of_not_eq_true live) pending (Nat.lt_of_not_le early) told
          undisturbed)
  | case7 attempts session live answered pending elapsed early span told rested disturbed =>
      exact ⟨attempts, session, polled,
        .disturbed (Bool.of_not_eq_true live) pending (Nat.lt_of_not_le early) told
          (Bool.of_not_eq_true disturbed)⟩

/-- A poll comes through some sessions and then ends. -/
theorem poll_ends (overrun : Nat → Option ε) (schedule : Schedule)
    (probe : UInt32 → Call ω ε (Option β)) (session : Session ω) :
    ∃ last final, Polled overrun schedule probe session.now 0 session last final ∧
      PollEnd overrun schedule probe session.now last final (session.poll overrun schedule probe) :=
  pollFrom_ends .start

/-! ## How late a poll can be -/

section Late

-- By how much a rest may be longer than asked, and how long a probe may take.
variable {lateness delay : Nat}

/-- A pause is over when it was asked to be, but for how much longer than asked a rest takes. -/
theorem now_pauseUntil_le {wake : Nat} {session : Session ω}
    (bounded : ∀ rests, session.drift rests ≤ lateness) :
    (pauseUntil wake session).2.now ≤ max session.now (wake + lateness) := by
  fun_induction pauseUntil wake session with
  | case1 => exact Nat.le_max_left _ _
  | case2 => exact Nat.le_max_left _ _
  | case3 session _ _ inductionHypothesis =>
    have late := inductionHypothesis bounded
    have drifted := bounded session.rests
    simp only [rest] at late ⊢
    omega

/-- Whenever a poll rests, it asks to be woken by the end of its time. -/
theorem now_add_restAfter_le {session : Session ω}
    (early : session.now - started < schedule.timeout) :
    session.now + restAfter schedule started session ≤ started + schedule.timeout := by
  rw [restAfter, spanAfter]
  omega

theorem Rests.within {first : UInt32} {span : Nat} {origin session : Session ω}
    (rests : Rests overrun schedule probe started first origin session span) :
    0 < span ∧ origin.now ≤ session.now ∧ session.now + span ≤ started + schedule.timeout := by
  cases rests with
  | @after attempts session polled _ _ early =>
    have answered : session.now ≤ (probed probe attempts session).now := now_le_probed _ _
    exact ⟨Nat.le_max_left _ _, Nat.le_trans polled.now_le answered, now_add_restAfter_le early⟩

theorem now_rested_le {session : Session ω} (bounded : ∀ rests, session.drift rests ≤ lateness)
    (early : session.now - started < schedule.timeout) :
    (session.restFor (restAfter schedule started session)).2.now ≤
      started + schedule.timeout + lateness := by
  have woken : _ ≤ max session.now (session.now + restAfter schedule started session + lateness) :=
    now_pauseUntil_le bounded
  have asked := now_add_restAfter_le early
  rw [restFor]
  omega

theorem now_probed_le (quick : ∀ attempt world, (probe attempt world).took ≤ delay)
    (attempts : UInt32) (session : Session ω) :
    (probed probe attempts session).now ≤ session.now + delay :=
  Nat.add_le_add_left (quick _ _) _

theorem Polled.drift_eq {first attempts : UInt32} {origin session : Session ω}
    (polled : Polled overrun schedule probe started first origin attempts session) :
    session.drift = origin.drift :=
  polled.keeps (P := fun later => later.drift = origin.drift) rfl (fun _ _ same _ => same)
    fun _ _ same => same

/-- A poll makes no probe after the end of its time, but for its first and for one after a rest
that took longer than asked. -/
theorem Polled.now_le_end {first attempts : UInt32} {origin session : Session ω}
    (polled : Polled overrun schedule probe started first origin attempts session)
    (bounded : ∀ rests, origin.drift rests ≤ lateness) :
    session.now ≤ max origin.now (started + schedule.timeout + lateness) := by
  cases polled with
  | start => exact Nat.le_max_left _ _
  | again earlier _ _ early =>
    rw [← earlier.drift_eq] at bounded
    exact Nat.le_trans (now_rested_le bounded early) (Nat.le_max_right _ _)

/-- A poll ends at the latest when the last of its probes has been answered. -/
theorem PollEnd.now_le_end {first attempts : UInt32} {origin session : Session ω}
    {ended : Except ε (Outcome β) × Session ω}
    (pollEnd : PollEnd overrun schedule probe started attempts session ended)
    (polled : Polled overrun schedule probe started first origin attempts session)
    (bounded : ∀ rests, origin.drift rests ≤ lateness)
    (quick : ∀ attempt world, (probe attempt world).took ≤ delay) :
    ended.2.now ≤ max origin.now (started + schedule.timeout + lateness) + delay := by
  have asked := polled.now_le_end bounded
  have answered := now_probed_le quick attempts session
  cases pollEnd with
  | cancelled => exact Nat.le_add_right_of_le asked
  | failed | ready | timedOut | crashed =>
    show (probed probe attempts session).now ≤ _
    omega
  | disturbed _ _ early =>
    rw [← polled.drift_eq] at bounded
    have stillBounded : ∀ rests, (probed probe attempts session).drift rests ≤ lateness := bounded
    have rested := now_rested_le stillBounded early
    exact Nat.le_add_right_of_le (Nat.le_trans rested (Nat.le_max_right _ _))

end Late

/-! ## Polls from where they have come to -/

/-- A poll whose token has not fired makes a probe and goes by its answer. -/
theorem pollFrom_of_live {attempts : UInt32} {session : Session ω}
    (live : session.isCancelled = false) :
    pollFrom overrun schedule probe started attempts session =
      let answered := probed probe attempts session
      let rested := answered.restFor (restAfter schedule started answered)
      match (session.exchange (probe (attempts + 1))).1 with
      | .error failure => (.error failure, answered)
      | .ok (some value) => (.ok (.ready value), answered)
      | .ok none =>
        if schedule.timeout ≤ answered.now - started then
          (.ok (.timedOut (attempts + 1) (answered.now - started)), answered)
        else
          match overrun (wakeAfter schedule started answered) with
          | some failure => (.error failure, answered)
          | none =>
            if rested.1 then pollFrom overrun schedule probe started (attempts + 1) rested.2
            else (.ok (.cancelled (attempts + 1)), rested.2) := by
  rw [pollFrom, if_neg (by simp [live])]
  rfl

/-- A poll goes on alike from every session it comes through. -/
theorem Polled.pollFrom_eq {first attempts : UInt32} {origin session : Session ω}
    (polled : Polled overrun schedule probe started first origin attempts session) :
    pollFrom overrun schedule probe started first origin =
      pollFrom overrun schedule probe started attempts session := by
  induction polled with
  | start => rfl
  | again _ live pending early told undisturbed inductionHypothesis =>
    rw [inductionHypothesis, pollFrom_of_live live, pending]
    dsimp only
    rw [if_neg (Nat.not_le_of_lt early), told]
    exact if_pos undisturbed

/-- A poll ends in only one way. -/
theorem PollEnd.pollFrom_eq {attempts : UInt32} {session : Session ω}
    {ended : Except ε (Outcome β) × Session ω}
    (pollEnd : PollEnd overrun schedule probe started attempts session ended) :
    pollFrom overrun schedule probe started attempts session = ended := by
  cases pollEnd with
  | cancelled fired => rw [pollFrom, if_pos fired]
  | failed live answer => rw [pollFrom_of_live live, answer]
  | ready live answer => rw [pollFrom_of_live live, answer]
  | timedOut live pending late =>
    rw [pollFrom_of_live live, pending]
    exact if_pos late
  | crashed live pending early untold =>
    rw [pollFrom_of_live live, pending]
    dsimp only
    rw [if_neg (Nat.not_le_of_lt early), untold]
  | disturbed live pending early told fired =>
    rw [pollFrom_of_live live, pending]
    dsimp only
    rw [if_neg (Nat.not_le_of_lt early), told]
    exact if_neg (by simp [fired])

theorem poll_eq {attempts : UInt32} {origin session : Session ω}
    {ended : Except ε (Outcome β) × Session ω}
    (polled : Polled overrun schedule probe origin.now 0 origin attempts session)
    (pollEnd : PollEnd overrun schedule probe origin.now attempts session ended) :
    origin.poll overrun schedule probe = ended :=
  polled.pollFrom_eq.trans pollEnd.pollFrom_eq

end Session

end Steward
