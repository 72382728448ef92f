import Steward.Session.Exchange
import Steward.Session.Token

/-!
# Sessions

A session is what one run of the program lives in: the world outside, the
clock and the token that can stop it.  Time passes only in exchanges and in
pauses.  A pause may last longer than asked, by whatever the session's `drift`
says, but never shorter.

One clock serves two ends: pauses are measured by it, and it tells the date
that deadlines go by.  It can tell instants up to its `horizon`.  A pause that
would end later crashes, and the program stops for good.
-/

namespace Steward

/-- The surroundings of one run. -/
structure Session (ω : Type) where
  world : ω
  now : Nat
  /-- The last instant that the clock can tell. -/
  horizon : Nat
  token : Token
  /-- How much longer than asked each further rest takes. -/
  drift : Nat → Nat
  /-- How many rests there have been. -/
  rests : Nat

/-- A computation in a session that may fail. -/
abbrev Act (ω ε : Type) := ExceptT ε (StateM (Session ω))

namespace Session

/-- Whether the session's token has fired by now. -/
def isCancelled (session : Session ω) : Bool :=
  session.token.hasFired session.now

/-- The session after a request to the outside has been answered. -/
def exchange (session : Session ω) (request : Exchange ω β) : β × Session ω :=
  let reply := request session.world
  (reply.answer, { session with
    world := reply.world
    now := session.now + reply.took
    token := session.token.fireIf reply.fired })

/-- The session after a rest of at least the given span. -/
def rest (session : Session ω) (span : Nat) : Session ω :=
  { session with
    now := session.now + span + session.drift session.rests
    rests := session.rests + 1 }

/-- The session with something carried beside its world. -/
def carrying (session : Session ω) (own : σ) : Session (ω × σ) :=
  { session with world := (session.world, own) }

/-- The session without what it carries beside its world. -/
def unloaded (session : Session (ω × σ)) : Session ω :=
  { session with world := session.world.1 }

/-! ## Pauses -/

/-- How long a pause rests before it looks at the token again. -/
def slice : Nat := Nanos.ofMillis 50

/-- Rests slice by slice until the instant `wake`.  The answer is false if the token fired first. -/
def pauseUntil (wake : Nat) (session : Session ω) : Bool × Session ω :=
  if session.isCancelled then (false, session)
  else if wake ≤ session.now then (true, session)
  else pauseUntil wake (session.rest (min (wake - session.now) slice))
termination_by wake - session.now
decreasing_by
  have positive : 0 < slice := by decide
  simp only [rest]
  omega

/-- Rests for a span whose end the clock can tell.  The answer is false if the token fired
first. -/
def restFor (session : Session ω) (span : Nat) : Bool × Session ω :=
  pauseUntil (session.now + span) session

/-- What a pause until an instant fails with, if the clock cannot tell that instant; `crash` stands
for the end of the program. -/
def overrun (session : Session ω) (crash : ε) (wake : Nat) : Option ε :=
  if session.horizon < wake then some crash else none

/-- Pauses for a span.  The end of the pause is worked out before anything else is done, so that a
pause that is too long crashes even where the token has fired. -/
def pause (session : Session ω) (crash : ε) (span : Nat) : Except ε Bool × Session ω :=
  match session.overrun crash (session.now + span) with
  | some failure => (.error failure, session)
  | none =>
    let rested := session.restFor span
    (.ok rested.1, rested.2)

/-! ## Time goes forward -/

@[simp]
theorem now_le_exchange (session : Session ω) (request : Exchange ω β) :
    session.now ≤ (session.exchange request).2.now :=
  Nat.le_add_right _ _

theorem now_le_pauseUntil (wake : Nat) (session : Session ω) :
    session.now ≤ (pauseUntil wake session).2.now := by
  fun_induction pauseUntil wake session with
  | case1 => exact Nat.le_refl _
  | case2 => exact Nat.le_refl _
  | case3 session _ _ inductionHypothesis =>
    refine Nat.le_trans ?_ inductionHypothesis
    simp only [rest]
    omega

theorem wake_le_pauseUntil (wake : Nat) (session : Session ω)
    (h : (pauseUntil wake session).1 = true) : wake ≤ (pauseUntil wake session).2.now := by
  fun_induction pauseUntil wake session with
  | case1 => simp at h
  | case2 session _ reached => exact reached
  | case3 session _ _ inductionHypothesis => exact inductionHypothesis h

end Session

namespace Act

/-- Asks the outside; a failure is a failure of the computation. -/
def call (request : Call ω ε β) : Act ω ε β := fun session => session.exchange request

/-- Asks the outside and takes a failure as an answer. -/
def attempt (request : Call ω ε' β) : Act ω ε (Except ε' β) := fun session =>
  let (answer, session) := session.exchange request
  (.ok answer, session)

def look : Act ω ε (Session ω) := fun session => (.ok session, session)

def isCancelled : Act ω ε Bool := fun session => (.ok session.isCancelled, session)

def pause (crash : ε) (span : Nat) : Act ω ε Bool := fun session => session.pause crash span

/-- Runs a computation and takes its failure as an answer. -/
def outcome (act : Act ω ε' β) : Act ω ε (Except ε' β) := fun session =>
  let (result, session) := act session
  (.ok result, session)

/-- Runs a computation with a value carried beside the world, and gives back what it made of the
value whether it failed or not. -/
def carrying (own : σ) (act : Act (ω × σ) ε' β) : Act ω ε (Except ε' β × σ) := fun session =>
  let (result, after) := act (session.carrying own)
  (.ok (result, after.world.2), after.unloaded)

end Act

end Steward
