import Steward.Session.Poll
import Steward.Trust.Status

/-!
# Submissions

A submission waits for its verdict up to a deadline that is fixed when it is
made.  However often it is waited for, the deadline stays.

The statuses that are read are counted in a word of 32 bits.  After the last
of these numbers comes zero again; a program built with checked arithmetic would
crash instead.
-/

namespace Steward

/-- How long to wait for the authority. -/
structure NotarizationTimings where
  /-- The pause between two queries. -/
  pollInterval : Nat
  /-- How long a verdict may take. -/
  timeout : Nat
  deriving DecidableEq, Repr

namespace NotarizationTimings

/-- Every half minute for half an hour. -/
def standard : NotarizationTimings := ⟨Nanos.ofSeconds 30, Nanos.ofSeconds 1800⟩

def schedule (timings : NotarizationTimings) : Schedule :=
  ⟨timings.pollInterval, timings.timeout⟩

end NotarizationTimings

/-- A submission that waits for its verdict. -/
structure Submission where
  /-- What the authority calls it. -/
  trackingId : TrackingId
  submittedAt : Nat
  /-- When waiting ends. -/
  deadline : Nat
  lastStatus : Option Status
  /-- How many statuses have been read. -/
  polls : UInt32
  deriving DecidableEq, Repr

namespace Submission

/-- The longest wait in milliseconds: ten years. -/
def longestWait : Nat := 10 * 365 * 24 * 60 * 60 * 1000

/-- How long a submission with the given timeout may take, as a signed count of milliseconds: whole
milliseconds, at most ten years. -/
def waitMillis (timeout : Nat) : Int64 :=
  Int64.ofNat (min (timeout / Nanos.perMilli) longestWait)

/-- The instant so many milliseconds after another, or before it if the count is negative. -/
def instantAfter (now : Nat) (millis : Int64) : Nat :=
  (now + millis.toInt * Nanos.perMilli).toNat

def make (trackingId : TrackingId) (timeout now : Nat) : Submission :=
  ⟨trackingId, now, instantAfter now (waitMillis timeout), none, 0⟩

/-- The time left before the deadline; none once it has passed. -/
def remaining (submission : Submission) (now : Nat) : Nat :=
  submission.deadline - now

/-- The submission after a status has been read. -/
def note (submission : Submission) (status : Status) : Submission :=
  { submission with lastStatus := some status, polls := submission.polls + 1 }

end Submission

end Steward
