import Steward.Session.Basic

/-!
# Polling

To poll is to ask the outside again and again until it gives a value, the
schedule's time is over, or the token fires.  The token is looked at before
every probe, and at least one probe is made unless it has fired by then.

Probes are counted in words of 32 bits.  After the last of these numbers comes
zero again; a program built with checked arithmetic would crash instead.
-/

namespace Steward

/-- How long to wait between probes, and how long in all. -/
structure Schedule where
  /-- The pause between two probes. -/
  interval : Nat
  /-- The time after which no further probe is made. -/
  timeout : Nat
  deriving DecidableEq, Repr

/-- How a poll ends. -/
inductive Outcome (β : Type)
  /-- A probe gave a value. -/
  | ready (value : β)
  /-- The time was over after so many probes. -/
  | timedOut (attempts : UInt32) (elapsed : Nat)
  /-- The token fired after so many probes. -/
  | cancelled (attempts : UInt32)
  deriving DecidableEq, Repr

namespace Session

/-- Polls on after `attempts` probes; the first was made at or after the instant `started`.  A pause
that would end at an instant that cannot be told fails with what `overrun` says. -/
def pollFrom (overrun : Nat → Option ε) (schedule : Schedule)
    (probe : UInt32 → Call ω ε (Option β)) (started : Nat) (attempts : UInt32)
    (session : Session ω) : Except ε (Outcome β) × Session ω :=
  if session.isCancelled then (.ok (.cancelled attempts), session)
  else
    let answered := session.exchange (probe (attempts + 1))
    match answered.1 with
    | .error failure => (.error failure, answered.2)
    | .ok (some value) => (.ok (.ready value), answered.2)
    | .ok none =>
      let elapsed := answered.2.now - started
      if schedule.timeout ≤ elapsed then (.ok (.timedOut (attempts + 1) elapsed), answered.2)
      else
        let span := min schedule.interval (schedule.timeout - elapsed)
        match overrun (answered.2.now + span) with
        | some failure => (.error failure, answered.2)
        | none =>
          -- The program itself does not pause where the interval is zero.  Its clock goes on all
          -- the same, and here it goes on by this one nanosecond.
          let rested := answered.2.restFor (max 1 span)
          if rested.1 then pollFrom overrun schedule probe started (attempts + 1) rested.2
          else (.ok (.cancelled (attempts + 1)), rested.2)
termination_by started + schedule.timeout - session.now
decreasing_by
  have undisturbed : (answered.2.restFor (max 1 span)).1 = true := by assumption
  have woken : answered.2.now + max 1 span ≤ (answered.2.restFor (max 1 span)).2.now :=
    wake_le_pauseUntil _ _ undisturbed
  have forward : session.now ≤ answered.2.now := now_le_exchange _ _
  have positive : 1 ≤ max 1 span := Nat.le_max_left _ _
  have : ¬ schedule.timeout ≤ answered.2.now - started := by assumption
  show started + schedule.timeout - (answered.2.restFor (max 1 span)).2.now <
    started + schedule.timeout - session.now
  omega

/-- Polls until a probe gives a value, the time is over or the token fires.  A probe is told how
many probes have been made, itself included. -/
def poll (overrun : Nat → Option ε) (schedule : Schedule) (probe : UInt32 → Call ω ε (Option β))
    (session : Session ω) : Except ε (Outcome β) × Session ω :=
  pollFrom overrun schedule probe session.now 0 session

/-- What a pause fails with where every instant can be told. -/
abbrev noOverrun : Nat → Option ε := fun _ => none

end Session

namespace Act

/-- Polls by the clock of the session; `crash` stands for the end of the program. -/
def poll (crash : ε) (schedule : Schedule) (probe : UInt32 → Call ω ε (Option β)) :
    Act ω ε (Outcome β) :=
  fun session => session.poll (session.overrun crash) schedule probe

/-- Polls up to a date.  Every date can be told, and so can every instant before it. -/
def pollToDate (schedule : Schedule) (probe : UInt32 → Call ω ε (Option β)) :
    Act ω ε (Outcome β) :=
  fun session => session.poll Session.noOverrun schedule probe

end Act

end Steward
