import Mathlib.Order.Monotone.Basic
import Steward.Proofs.Trust.WaitingAgain

/-!
# The deadline of a submission

The deadline is fixed when a submission is made: so many whole milliseconds later, ten years at
most, and a signed count of 64 bits holds them whatever the timeout is.  Replies do not change the
deadline, so every wait, the first as well as a later one, has only the time that is left: it rests
only where it can be woken by the deadline, and when it begins after the deadline it asks once and
does not rest at all.  Instants are counted from the first one of the calendar.
-/

namespace Steward

variable {α ε : Type}

namespace Submission

/-! ## How far off the deadline is -/

/-- Nothing of the count of milliseconds is lost in 64 bits, and it is not taken for a negative
one. -/
theorem toInt_waitMillis (timeout : Nat) :
    (waitMillis timeout).toInt = (min (timeout / Nanos.perMilli) longestWait : Nat) := by
  rw [waitMillis]
  apply Int64.toInt_ofNat_of_lt
  exact Nat.lt_of_le_of_lt (Nat.min_le_right _ longestWait) (by decide)

theorem deadline_make (trackingId : TrackingId) (timeout made : Nat) :
    (make trackingId timeout made).deadline =
      made + Nanos.ofMillis (min (timeout / Nanos.perMilli) longestWait) := by
  rw [make, instantAfter, toInt_waitMillis]
  exact Int.toNat_natCast _

/-- Between the making of a submission and its deadline there is at most the timeout. -/
theorem ofMillis_wait_le (timeout : Nat) :
    Nanos.ofMillis (min (timeout / Nanos.perMilli) longestWait) ≤ timeout :=
  calc
    Nanos.ofMillis (min (timeout / Nanos.perMilli) longestWait)
      ≤ timeout / Nanos.perMilli * Nanos.perMilli :=
        Nat.mul_le_mul_right _ (Nat.min_le_left _ _)
    _ ≤ timeout := Nat.div_mul_le_self _ _

/-! ## What is left -/

theorem remaining_antitone (submission : Submission) : Antitone submission.remaining :=
  fun _ _ later => Nat.sub_le_sub_left later _

theorem deadline_noteIn (submission : Submission) (reply : Except ToolError ToolOutput) :
    (submission.noteIn reply).deadline = submission.deadline := by
  unfold noteIn
  split <;> rfl

/-- However often a submission is waited for, the deadline stays. -/
theorem Waited.deadline_eq {made watched : Submission} (waits : made.Waited watched) :
    watched.deadline = made.deadline :=
  waits.keeps (P := fun later => later.deadline = made.deadline) rfl fun later reply same =>
    (deadline_noteIn later reply).trans same

end Submission

namespace Pipeline

/-! ## Waits and the deadline -/

/-- The rests of a wait that begins in a session: where the wait is when it asks for one, and for
how long. -/
def RestsFor (pipeline : Pipeline α) (submission : Submission) (session : Session (World α))
    (answered : Session (World α × Submission)) (span : Nat) : Prop :=
  ∃ credential, pipeline.credential = .ok credential ∧
    Session.Rests Session.noOverrun (pipeline.verdictSchedule submission session)
      (pipeline.probe (ε := TrustError) submission.trackingId credential) session.now 0
      (session.carrying submission) answered span

/-- A wait that begins in a session keeps to a deadline. -/
structure KeepsTo (deadline : Nat) (pipeline : Pipeline α) (submission : Submission)
    (artifact : Artifact) (session : Session (World α)) : Prop where
  /-- Its time is what is left before the deadline. -/
  scheduled : session.now + (pipeline.verdictSchedule submission session).timeout =
    max session.now deadline
  /-- Whenever it rests, it asks to be woken by the deadline. -/
  rests : ∀ answered span, pipeline.RestsFor submission session answered span →
    0 < span ∧ answered.now + span ≤ deadline
  /-- It comes to an end.  When rests last no longer than asked but for `lateness` and queries no
  longer than `delay`, that is no later after the deadline than they add. -/
  ends : ∃ result watched reached after,
    (pipeline.await submission : Work α ε _) artifact session =
        ((.ok (result, watched), reached), after) ∧
      watched.deadline = deadline ∧
      ∀ lateness delay, (∀ rests, session.drift rests ≤ lateness) →
        (∀ credential world,
          (pipeline.notary.query submission.trackingId credential world).took ≤ delay) →
        after.now ≤ max session.now deadline + lateness + delay

/-- A probe takes as long as its query. -/
theorem took_probe (pipeline : Pipeline α) (trackingId : TrackingId) (credential : Credential)
    (attempt : UInt32) (world : World α × Submission) :
    (pipeline.probe (ε := ε) trackingId credential attempt world).took =
      (pipeline.notary.query trackingId credential world.1).took := by
  have asked := congrArg (fun answered => answered.2.now)
    (pipeline.exchange_probe (ε := ε) trackingId credential attempt
      ⟨world, 0, Nanos.lastOfClock, .fresh, fun _ => 0, 0⟩)
  simpa [Session.exchange, Session.unloaded, Session.carrying] using asked

variable {pipeline : Pipeline α} {submission : Submission} {session : Session (World α)}

theorem now_add_timeout (pipeline : Pipeline α) (submission : Submission)
    (session : Session (World α)) :
    session.now + (pipeline.verdictSchedule submission session).timeout =
      max session.now submission.deadline := by
  show session.now + (submission.deadline - session.now) = max session.now submission.deadline
  omega

theorem RestsFor.within {answered : Session (World α × Submission)} {span : Nat}
    (rests : pipeline.RestsFor submission session answered span) :
    0 < span ∧ answered.now + span ≤ submission.deadline := by
  obtain ⟨credential, -, rests⟩ := rests
  obtain ⟨positive, forward, woken⟩ := rests.within
  have began : session.now ≤ answered.now := forward
  rw [now_add_timeout] at woken
  omega

/-- Every wait keeps to the deadline of its submission. -/
theorem keepsTo_deadline (pipeline : Pipeline α) (submission : Submission) (artifact : Artifact)
    (session : Session (World α)) :
    KeepsTo (ε := ε) submission.deadline pipeline submission artifact session where
  scheduled := now_add_timeout pipeline submission session
  rests _ _ rests := rests.within
  ends := by
    obtain ⟨result, watched, reached, after, ended, awaiting⟩ :=
      pipeline.await_ends (ε := ε) submission artifact session
    refine ⟨result, watched, reached, after, ended, ?_, ?_⟩
    · exact awaiting.keeps (P := fun later => later.deadline = submission.deadline) rfl
        fun later reply same => (Submission.deadline_noteIn later reply).trans same
    · intro lateness delay bounded quick
      cases awaiting with
      | uncredentialed => omega
      | @concluded credential _ _ _ _ _ final _ polled pollEnd _ =>
        have late : final.now ≤ _ := pollEnd.now_le_end polled bounded fun attempt world =>
          (took_probe pipeline submission.trackingId credential attempt world).trans_le
            (quick credential world.1)
        have began : (session.carrying submission).now = session.now := rfl
        rw [now_add_timeout, began] at late
        show final.now ≤ max session.now submission.deadline + lateness + delay
        omega

end Pipeline

namespace Submission

/-! ## Every wait for one submission -/

/-- A submission's deadline is its timeout away, in whole milliseconds and at most ten years, and no
instant is lost or wrapped in between.  What is left is what lies before the deadline, and nothing
once it has come; so it never grows, and it is at most the timeout.  However often the submission
is waited for, every wait keeps to that one deadline. -/
theorem waits_keep_to_deadline (trackingId : TrackingId) (timeout made : Nat) :
    let submission := make trackingId timeout made
    (waitMillis timeout).toInt = (min (timeout / Nanos.perMilli) longestWait : Nat) ∧
      (submission.deadline : Int) - made =
        (Nanos.ofMillis (min (timeout / Nanos.perMilli) longestWait) : Nat) ∧
      (∀ calendarEnd, made + Nanos.ofMillis longestWait ≤ calendarEnd →
        submission.deadline ≤ calendarEnd) ∧
      (∀ now, now < submission.deadline →
        (submission.remaining now : Int) = submission.deadline - now) ∧
      (∀ now, submission.deadline ≤ now → submission.remaining now = 0) ∧
      Antitone submission.remaining ∧
      (∀ now, made ≤ now → submission.remaining now ≤ timeout) ∧
      ∀ watched, submission.Waited watched →
        ∀ (pipeline : Pipeline α) (artifact : Artifact) (session : Session (World α)),
          Pipeline.KeepsTo (ε := ε) submission.deadline pipeline watched artifact session := by
  intro submission
  have away : submission.deadline =
      made + Nanos.ofMillis (min (timeout / Nanos.perMilli) longestWait) :=
    deadline_make trackingId timeout made
  have within := ofMillis_wait_le timeout
  have tenYears : Nanos.ofMillis (min (timeout / Nanos.perMilli) longestWait) ≤
      Nanos.ofMillis longestWait :=
    Nat.mul_le_mul_right _ (Nat.min_le_right _ _)
  have left (now : Nat) : submission.remaining now = submission.deadline - now := rfl
  refine ⟨toInt_waitMillis timeout, ?_, ?_, ?_, ?_, submission.remaining_antitone, ?_, ?_⟩
  · omega
  · intro calendarEnd
    omega
  · intro now early
    rw [left]
    omega
  · intro now late
    rw [left]
    omega
  · intro now after
    rw [left]
    omega
  · intro watched waits pipeline artifact session
    rw [← waits.deadline_eq]
    exact pipeline.keepsTo_deadline watched artifact session

/-- A submission with the longest timeout there can be. -/
def lasting : Submission := make ⟨"id-1"⟩ (18446744073709551615 * Nanos.perSecond + 999999999) 5

/-- Ten years after it was made, nothing is left of the longest timeout, though it has been waited
for; and a wait that begins then keeps to the same deadline. -/
theorem lasting_keeps_to_deadline :
    let answered := (Pipeline.overdueWait Pipeline.submittedAgent Pipeline.unasked).2
    let watched := lasting.note .success
    lasting.Waited watched ∧
      lasting.deadline = 315360000000000005 ∧ lasting.remaining 315360000000000005 = 0 ∧
      Pipeline.KeepsTo (ε := TrustError) 315360000000000005 Pipeline.hesitant watched
        Pipeline.submittedAgent { answered with now := 315360000000000005 } := by
  intro answered watched
  obtain ⟨-, -, -, -, late, -, -, keeps⟩ := waits_keep_to_deadline (α := Bool)
    (ε := TrustError) ⟨"id-1"⟩ (18446744073709551615 * Nanos.perSecond + 999999999) 5
  have deadline : lasting.deadline = 315360000000000005 := by decide +kernel
  have accepted : (Pipeline.hesitant.await lasting : Work Bool TrustError _)
      Pipeline.submittedAgent answered =
        ((.ok (.ok (), watched), Pipeline.submittedAgent.decided .success), _) :=
    Prod.ext (by decide +kernel) rfl
  have waits : lasting.Waited watched := .again .made accepted
  refine ⟨waits, deadline, late _ deadline.le, ?_⟩
  rw [← deadline]
  exact keeps watched waits _ _ _

end Submission

end Steward
