import Mathlib.Algebra.Order.Floor.Div
import Steward.Proofs.Session.Polling
import Steward.Proofs.Session.Refinement
import Steward.Settings.Basic

/-!
# Polls on every clock

A rest takes at least its span, and how much longer the program cannot know;
meanwhile the outside goes on, and somebody may fire the token.  `Comes` and
`Goes` say what a poll does when nothing more is known than this: a rest leads
to any session that is late enough.  A poll in a session is one such course, so
what holds of every course holds of it.

A pause ends at an instant that the clock must be able to tell.  Where it is not,
the poll fails with what `overrun` says, be the token as it may.
-/

namespace Steward

variable {ω ε β : Type}

/-- A probe that a poll makes: the number it is told and the session it is made in. -/
structure Asking (ω : Type) where
  attempt : UInt32
  session : Session ω

namespace Asking

variable (probe : UInt32 → Call ω ε (Option β))

/-- What the probe answers. -/
def answer (asking : Asking ω) : Except ε (Option β) :=
  (asking.session.exchange (probe asking.attempt)).1

/-- When the probe has answered. -/
def answered (asking : Asking ω) : Nat :=
  (asking.session.exchange (probe asking.attempt)).2.now

/-- The answer to the last of some probes, all the others of which were pending. -/
def Settles (trail : List (Asking ω)) (told : Except ε (Option β)) : Prop :=
  ∃ earlier last, trail = earlier ++ [last] ∧
    (∀ asking ∈ earlier, asking.answer probe = .ok none) ∧ last.answer probe = told

variable {probe} in
theorem settles_concat {trail : List (Asking ω)} {last : Asking ω}
    {told : Except ε (Option β)} :
    Settles probe (trail ++ [last]) told ↔
      (∀ asking ∈ trail, asking.answer probe = .ok none) ∧ last.answer probe = told := by
  constructor
  · rintro ⟨earlier, final, split, pending, answer⟩
    obtain ⟨rfl, same⟩ := List.append_inj' split rfl
    cases same
    exact ⟨pending, answer⟩
  · rintro ⟨pending, answer⟩
    exact ⟨trail, last, rfl, pending, answer⟩

variable {probe} in
/-- Probes that are all pending settle nothing. -/
theorem not_settles {trail : List (Asking ω)} {told : Except ε (Option β)}
    (pending : ∀ asking ∈ trail, asking.answer probe = .ok none) (told_ne : told ≠ .ok none) :
    ¬Settles probe trail told := by
  rintro ⟨earlier, last, rfl, -, answer⟩
  exact told_ne (answer.symm.trans (pending last (by simp)))

/-- The probe after some that are told one number after the other is told the next number. -/
theorem numbered_concat {trail : List (Asking ω)}
    (numbered : trail.map attempt = (List.range' 1 trail.length).map UInt32.ofNat)
    (session : Session ω) :
    (trail ++ [Asking.mk (UInt32.ofNat trail.length + 1) session]).map attempt =
      (List.range' 1 (trail.length + 1)).map UInt32.ofNat := by
  rw [List.map_append, numbered, List.range'_concat, List.map_append]
  simp [UInt32.ofNat_add, UInt32.add_comm]

/-- Numbers that a word can hold are told as they are. -/
theorem map_toNat_of_numbered {trail : List (Asking ω)}
    (numbered : trail.map attempt = (List.range' 1 trail.length).map UInt32.ofNat)
    (room : trail.length < UInt32.size) :
    trail.map (fun asking => asking.attempt.toNat) = List.range' 1 trail.length := by
  calc
    trail.map (fun asking => asking.attempt.toNat)
        = (trail.map attempt).map UInt32.toNat := by
        rw [List.map_map]
        rfl
    _ = (List.range' 1 trail.length).map (fun number => (UInt32.ofNat number).toNat) := by
        rw [numbered, List.map_map]
        rfl
    _ = (List.range' 1 trail.length).map id := by
        apply List.map_congr_left
        intro number counted
        have held := (List.mem_range'_1.1 counted).2
        exact UInt32.toNat_ofNat_of_lt' (by omega)
    _ = List.range' 1 trail.length := List.map_id _

theorem now_le_answered (attempt : UInt32) (session : Session ω) :
    session.now ≤ answered probe ⟨attempt, session⟩ :=
  Session.now_le_exchange _ _

end Asking

namespace Session

variable (overrun : Nat → Option ε) (schedule : Schedule) (probe : UInt32 → Call ω ε (Option β))
  (origin : Session ω)

/-! ## Courses -/

/-- How long a poll that began in `origin` has gone on after a probe. -/
def elapsedAfter (asking : Asking ω) : Nat :=
  asking.answered probe - origin.now

/-- When the pause of such a poll after a probe is to end. -/
def dueAfter (asking : Asking ω) : Nat :=
  asking.answered probe +
    min schedule.interval (schedule.timeout - elapsedAfter probe origin asking)

/-- The pending probes by which a poll that began in `origin` comes to a session, oldest first. -/
inductive Comes : UInt32 → List (Asking ω) → Session ω → Prop
  | start : Comes 0 [] origin
  | again {attempts : UInt32} {trail : List (Asking ω)} {session next : Session ω}
      (earlier : Comes attempts trail session) (live : session.isCancelled = false)
      (pending : Asking.answer probe ⟨attempts + 1, session⟩ = .ok none)
      (early : elapsedAfter probe origin ⟨attempts + 1, session⟩ < schedule.timeout)
      (told : overrun (dueAfter schedule probe origin ⟨attempts + 1, session⟩) = none)
      (rested : dueAfter schedule probe origin ⟨attempts + 1, session⟩ ≤ next.now) :
      Comes (attempts + 1) (trail ++ [⟨attempts + 1, session⟩]) next

/-- The probes of a poll that began in `origin`, what it comes to and where it ends. -/
inductive Goes : List (Asking ω) → Except ε (Outcome β) × Session ω → Prop
  | cancelled {attempts : UInt32} {trail : List (Asking ω)} {session : Session ω}
      (comes : Comes overrun schedule probe origin attempts trail session)
      (fired : session.isCancelled = true) :
      Goes trail (.ok (.cancelled attempts), session)
  | failed {attempts : UInt32} {trail : List (Asking ω)} {session : Session ω} {failure : ε}
      (comes : Comes overrun schedule probe origin attempts trail session)
      (live : session.isCancelled = false)
      (answer : Asking.answer probe ⟨attempts + 1, session⟩ = .error failure) :
      Goes (trail ++ [⟨attempts + 1, session⟩]) (.error failure, probed probe attempts session)
  | ready {attempts : UInt32} {trail : List (Asking ω)} {session : Session ω} {value : β}
      (comes : Comes overrun schedule probe origin attempts trail session)
      (live : session.isCancelled = false)
      (answer : Asking.answer probe ⟨attempts + 1, session⟩ = .ok (some value)) :
      Goes (trail ++ [⟨attempts + 1, session⟩])
        (.ok (.ready value), probed probe attempts session)
  | timedOut {attempts : UInt32} {trail : List (Asking ω)} {session : Session ω}
      (comes : Comes overrun schedule probe origin attempts trail session)
      (live : session.isCancelled = false)
      (pending : Asking.answer probe ⟨attempts + 1, session⟩ = .ok none)
      (late : schedule.timeout ≤ elapsedAfter probe origin ⟨attempts + 1, session⟩) :
      Goes (trail ++ [⟨attempts + 1, session⟩])
        (.ok (.timedOut (attempts + 1) (elapsedAfter probe origin ⟨attempts + 1, session⟩)),
          probed probe attempts session)
  | crashed {attempts : UInt32} {trail : List (Asking ω)} {session : Session ω} {failure : ε}
      (comes : Comes overrun schedule probe origin attempts trail session)
      (live : session.isCancelled = false)
      (pending : Asking.answer probe ⟨attempts + 1, session⟩ = .ok none)
      (early : elapsedAfter probe origin ⟨attempts + 1, session⟩ < schedule.timeout)
      (untold : overrun (dueAfter schedule probe origin ⟨attempts + 1, session⟩) = some failure) :
      Goes (trail ++ [⟨attempts + 1, session⟩]) (.error failure, probed probe attempts session)
  | disturbed {attempts : UInt32} {trail : List (Asking ω)} {session next : Session ω}
      (comes : Comes overrun schedule probe origin attempts trail session)
      (live : session.isCancelled = false)
      (pending : Asking.answer probe ⟨attempts + 1, session⟩ = .ok none)
      (early : elapsedAfter probe origin ⟨attempts + 1, session⟩ < schedule.timeout)
      (told : overrun (dueAfter schedule probe origin ⟨attempts + 1, session⟩) = none)
      (forward : Asking.answered probe ⟨attempts + 1, session⟩ ≤ next.now)
      (fired : next.isCancelled = true) :
      Goes (trail ++ [⟨attempts + 1, session⟩]) (.ok (.cancelled (attempts + 1)), next)

/-- The failure of a poll whose probes were all pending, where the pause after the last of them is
to end at an instant that cannot be told. -/
def Overruns (trail : List (Asking ω)) (failure : ε) : Prop :=
  ∃ earlier last, trail = earlier ++ [last] ∧
    (∀ asking ∈ trail, asking.answer probe = .ok none) ∧
    elapsedAfter probe origin last < schedule.timeout ∧
    overrun (dueAfter schedule probe origin last) = some failure

variable {overrun schedule probe origin} {attempts : UInt32} {trail : List (Asking ω)}
  {session : Session ω} {ended : Except ε (Outcome β) × Session ω}

theorem overruns_concat {last : Asking ω} {failure : ε} :
    Overruns overrun schedule probe origin (trail ++ [last]) failure ↔
      (∀ asking ∈ trail ++ [last], asking.answer probe = .ok none) ∧
        elapsedAfter probe origin last < schedule.timeout ∧
        overrun (dueAfter schedule probe origin last) = some failure := by
  constructor
  · rintro ⟨earlier, final, split, pending, early, untold⟩
    obtain ⟨rfl, same⟩ := List.append_inj' split rfl
    cases same
    exact ⟨pending, early, untold⟩
  · rintro ⟨pending, early, untold⟩
    exact ⟨trail, last, rfl, pending, early, untold⟩

/-- A poll does not pause after a probe that is not pending. -/
theorem not_overruns_of_answer {last : Asking ω} (answer : last.answer probe ≠ .ok none)
    (failure : ε) : ¬Overruns overrun schedule probe origin (trail ++ [last]) failure := by
  rintro ⟨-, -, -, pending, -⟩
  exact answer (pending last (by simp))

/-- A pause never goes beyond the end of the poll's time. -/
theorem dueAfter_le {asking : Asking ω}
    (early : elapsedAfter probe origin asking < schedule.timeout) :
    dueAfter schedule probe origin asking ≤ origin.now + schedule.timeout := by
  simp only [dueAfter, elapsedAfter] at early ⊢
  omega

/-- No pause is too long for a clock that can tell when the poll's time is over. -/
theorem not_overruns_of_told
    (reached : ∀ wake ≤ origin.now + schedule.timeout, overrun wake = none) (failure : ε) :
    ¬Overruns overrun schedule probe origin trail failure := by
  rintro ⟨earlier, last, rfl, -, early, untold⟩
  rw [reached _ (dueAfter_le early)] at untold
  simp at untold

/-! ## The probes on the way -/

namespace Comes

theorem attempts_eq (comes : Comes overrun schedule probe origin attempts trail session) :
    attempts = UInt32.ofNat trail.length := by
  induction comes with
  | start => rfl
  | again _ _ _ _ _ _ inductionHypothesis =>
      rw [inductionHypothesis, List.length_append, UInt32.ofNat_add]
      rfl

theorem numbered (comes : Comes overrun schedule probe origin attempts trail session) :
    trail.map Asking.attempt = (List.range' 1 trail.length).map UInt32.ofNat := by
  induction comes with
  | start => rfl
  | again earlier _ _ _ _ _ inductionHypothesis =>
      rw [earlier.attempts_eq, List.length_append]
      exact Asking.numbered_concat inductionHypothesis _

theorem live (comes : Comes overrun schedule probe origin attempts trail session) :
    ∀ asking ∈ trail, asking.session.isCancelled = false := by
  induction comes with
  | start => simp
  | again _ live _ _ _ _ inductionHypothesis =>
      simpa [or_imp, forall_and] using ⟨inductionHypothesis, live⟩

theorem pending (comes : Comes overrun schedule probe origin attempts trail session) :
    ∀ asking ∈ trail, asking.answer probe = .ok none := by
  induction comes with
  | start => simp
  | again _ _ pending _ _ _ inductionHypothesis =>
      simpa [or_imp, forall_and] using ⟨inductionHypothesis, pending⟩

theorem now_le (comes : Comes overrun schedule probe origin attempts trail session) :
    origin.now ≤ session.now := by
  induction comes with
  | start => exact Nat.le_refl _
  | @again attempts trail session next _ _ _ _ _ rested inductionHypothesis =>
      calc
        origin.now ≤ session.now := inductionHypothesis
        _ ≤ Asking.answered probe ⟨attempts + 1, session⟩ := Asking.now_le_answered probe _ _
        _ ≤ next.now := (Nat.le_add_right _ _).trans rested

/-- A poll that goes on has paused, so the end of every pause could be told. -/
theorem not_overruns (comes : Comes overrun schedule probe origin attempts trail session)
    (failure : ε) : ¬Overruns overrun schedule probe origin trail failure := by
  cases comes with
  | start =>
      rintro ⟨earlier, last, split, -⟩
      simp at split
  | again _ _ _ _ told =>
      rw [overruns_concat]
      rintro ⟨-, -, untold⟩
      simp [told] at untold

/-- Every rest but the clipped last one takes the poll forward by the interval. -/
theorem forward (comes : Comes overrun schedule probe origin attempts trail session) :
    min schedule.timeout (trail.length * schedule.interval) ≤ session.now - origin.now := by
  induction comes with
  | start => simp
  | @again attempts trail session next earlier _ _ early _ rested inductionHypothesis =>
      have answered := Asking.now_le_answered probe (attempts + 1) session
      have begun := earlier.now_le
      simp only [dueAfter, elapsedAfter] at early rested
      rw [List.length_append, List.length_singleton, Nat.succ_mul]
      omega

/-- A poll that has made a probe made it before its time was over. -/
theorem early (comes : Comes overrun schedule probe origin attempts trail session)
    (probed : trail ≠ []) : (trail.length - 1) * schedule.interval < schedule.timeout := by
  cases comes with
  | start => exact absurd rfl probed
  | @again attempts trail session _ earlier _ _ early =>
      have reached := earlier.forward
      have answered := Asking.now_le_answered probe (attempts + 1) session
      simp only [elapsedAfter] at early
      rw [List.length_append, List.length_singleton, Nat.add_sub_cancel]
      omega

theorem length_le (comes : Comes overrun schedule probe origin attempts trail session)
    (positive : 0 < schedule.interval) :
    trail.length ≤ schedule.timeout ⌈/⌉ schedule.interval := by
  rcases eq_or_ne trail [] with rfl | probed
  · exact Nat.zero_le _
  · by_contra many
    have covered : schedule.timeout ≤ schedule.interval * (trail.length - 1) :=
      (ceilDiv_le_iff_le_mul positive).1 (Nat.le_sub_one_of_lt (Nat.lt_of_not_le many))
    exact absurd (comes.early probed) (Nat.not_lt.2 (by rwa [Nat.mul_comm]))

/-- The probe that follows is told the next number. -/
theorem numbered_concat (comes : Comes overrun schedule probe origin attempts trail session) :
    (trail ++ [Asking.mk (attempts + 1) session]).map Asking.attempt =
      (List.range' 1 (trail ++ [Asking.mk (attempts + 1) session]).length).map UInt32.ofNat := by
  rw [comes.attempts_eq, List.length_append]
  exact Asking.numbered_concat comes.numbered session

theorem live_concat (comes : Comes overrun schedule probe origin attempts trail session)
    (live : session.isCancelled = false) :
    ∀ asking ∈ trail ++ [Asking.mk (attempts + 1) session], asking.session.isCancelled = false := by
  simpa [or_imp, forall_and] using ⟨comes.live, live⟩

theorem pending_concat (comes : Comes overrun schedule probe origin attempts trail session)
    (pending : Asking.answer probe ⟨attempts + 1, session⟩ = .ok none) :
    ∀ asking ∈ trail ++ [Asking.mk (attempts + 1) session], asking.answer probe = .ok none := by
  simpa [or_imp, forall_and] using ⟨comes.pending, pending⟩

theorem attempts_concat (comes : Comes overrun schedule probe origin attempts trail session) :
    attempts + 1 = UInt32.ofNat (trail ++ [Asking.mk (attempts + 1) session]).length := by
  rw [List.length_append, UInt32.ofNat_add, ← comes.attempts_eq]
  rfl

end Comes

/-! ## Laws -/

variable (overrun schedule probe origin trail ended) in
/-- What holds of the probes of a poll and of how it ends. -/
structure Orderly : Prop where
  /-- The probes are told one number after the other, in words of 32 bits. -/
  numbered : trail.map Asking.attempt = (List.range' 1 trail.length).map UInt32.ofNat
  /-- The numbers are true as long as a word can hold them. -/
  numbered_toNat : trail.length < UInt32.size →
    trail.map (fun asking => asking.attempt.toNat) = List.range' 1 trail.length
  /-- No probe is made once the token has fired. -/
  live : ∀ asking ∈ trail, asking.session.isCancelled = false
  /-- A value is the first that a probe gave. -/
  ready_iff : ∀ value, ended.1 = .ok (.ready value) ↔ Asking.Settles probe trail (.ok (some value))
  /-- A failure is the first with which a probe failed, or that of a pause that is too long. -/
  failed_iff : ∀ failure, ended.1 = .error failure ↔
    Asking.Settles probe trail (.error failure) ∨
      Overruns overrun schedule probe origin trail failure
  /-- No pause is too long for a clock that can tell when the poll's time is over. -/
  told : (∀ wake ≤ origin.now + schedule.timeout, overrun wake = none) →
    ∀ failure, ¬Overruns overrun schedule probe origin trail failure
  /-- A poll times out only once its time is over, after probes that were all pending. -/
  late : ∀ attempts elapsed, ended.1 = .ok (.timedOut attempts elapsed) →
    attempts = UInt32.ofNat trail.length ∧ trail ≠ [] ∧
      (∀ asking ∈ trail, asking.answer probe = .ok none) ∧
      elapsed = ended.2.now - origin.now ∧ schedule.timeout ≤ elapsed
  /-- The last probe of a poll that times out, if it is instant, is made once its time is over. -/
  final : ∀ attempts elapsed, ended.1 = .ok (.timedOut attempts elapsed) →
    ∀ asking ∈ trail.getLast?, asking.answered probe = asking.session.now →
      origin.now + schedule.timeout ≤ asking.session.now
  /-- What is so in time and stays so is never missed by probes that take no time. -/
  noticed : ∀ since ≤ origin.now + schedule.timeout,
    (∀ asking ∈ trail, asking.answered probe = asking.session.now) →
    (∀ asking ∈ trail, since ≤ asking.session.now → asking.answer probe ≠ .ok none) →
    ∀ attempts elapsed, ended.1 ≠ .ok (.timedOut attempts elapsed)
  /-- Only the token cancels, after probes that were all pending. -/
  cancelled : ∀ attempts, ended.1 = .ok (.cancelled attempts) →
    attempts = UInt32.ofNat trail.length ∧ (∀ asking ∈ trail, asking.answer probe = .ok none) ∧
      ended.2.isCancelled = true
  /-- There are no more probes than intervals, and one more. -/
  bounded : 0 < schedule.interval →
    trail.length ≤ schedule.timeout ⌈/⌉ schedule.interval + 1

namespace Goes

theorem numbered (goes : Goes overrun schedule probe origin trail ended) :
    trail.map Asking.attempt = (List.range' 1 trail.length).map UInt32.ofNat := by
  cases goes with
  | cancelled comes => exact comes.numbered
  | failed comes | ready comes | timedOut comes | crashed comes | disturbed comes =>
      exact comes.numbered_concat

theorem live (goes : Goes overrun schedule probe origin trail ended) :
    ∀ asking ∈ trail, asking.session.isCancelled = false := by
  cases goes with
  | cancelled comes => exact comes.live
  | failed comes live | ready comes live | timedOut comes live | crashed comes live
  | disturbed comes live =>
      exact comes.live_concat live

theorem ready_iff (goes : Goes overrun schedule probe origin trail ended) (value : β) :
    ended.1 = .ok (.ready value) ↔ Asking.Settles probe trail (.ok (some value)) := by
  cases goes with
  | cancelled comes => simpa using Asking.not_settles comes.pending (by simp)
  | failed comes _ answer => simp [Asking.settles_concat, answer]
  | ready comes _ answer => simpa [Asking.settles_concat, answer] using fun _ => comes.pending
  | timedOut comes _ pending | crashed comes _ pending | disturbed comes _ pending =>
      simpa using Asking.not_settles (comes.pending_concat pending) (by simp)

theorem failed_iff (goes : Goes overrun schedule probe origin trail ended) (failure : ε) :
    ended.1 = .error failure ↔ Asking.Settles probe trail (.error failure) ∨
      Overruns overrun schedule probe origin trail failure := by
  cases goes with
  | cancelled comes =>
      have unsettled : ¬Asking.Settles probe trail (.error failure) :=
        Asking.not_settles comes.pending (by simp)
      simp [unsettled, comes.not_overruns]
  | @failed attempts earlier session cause comes _ answer =>
      have answered : Asking.answer probe ⟨attempts + 1, session⟩ ≠ .ok none := by simp [answer]
      have short : ¬Overruns overrun schedule probe origin (earlier ++ [_]) failure :=
        not_overruns_of_answer answered failure
      simpa [Asking.settles_concat, short, answer] using fun _ => comes.pending
  | ready comes _ answer =>
      simp [Asking.settles_concat, not_overruns_of_answer, answer]
  | timedOut comes _ pending late =>
      have unsettled : ¬Asking.Settles probe _ (.error failure) :=
        Asking.not_settles (comes.pending_concat pending) (by simp)
      simp [unsettled, overruns_concat, Nat.not_lt.2 late]
  | crashed comes _ pending early untold =>
      have unsettled : ¬Asking.Settles probe _ (.error failure) :=
        Asking.not_settles (comes.pending_concat pending) (by simp)
      rw [overruns_concat]
      simpa [unsettled, early, untold] using fun _ => comes.pending_concat pending
  | disturbed comes _ pending _ told =>
      have unsettled : ¬Asking.Settles probe _ (.error failure) :=
        Asking.not_settles (comes.pending_concat pending) (by simp)
      simp [unsettled, overruns_concat, told]

theorem late (goes : Goes overrun schedule probe origin trail ended) {attempts : UInt32}
    {elapsed : Nat} (spent : ended.1 = .ok (.timedOut attempts elapsed)) :
    attempts = UInt32.ofNat trail.length ∧ trail ≠ [] ∧
      (∀ asking ∈ trail, asking.answer probe = .ok none) ∧
      elapsed = ended.2.now - origin.now ∧ schedule.timeout ≤ elapsed := by
  cases goes with
  | cancelled | failed | ready | crashed | disturbed => simp at spent
  | timedOut comes _ pending late =>
      cases spent
      exact ⟨comes.attempts_concat, by simp, comes.pending_concat pending, rfl, late⟩

theorem final (goes : Goes overrun schedule probe origin trail ended) {attempts : UInt32}
    {elapsed : Nat} (spent : ended.1 = .ok (.timedOut attempts elapsed)) {asking : Asking ω}
    (last : asking ∈ trail.getLast?) (instant : asking.answered probe = asking.session.now) :
    origin.now + schedule.timeout ≤ asking.session.now := by
  cases goes with
  | cancelled | failed | ready | crashed | disturbed => simp at spent
  | timedOut comes _ _ late =>
      simp only [List.getLast?_concat, Option.mem_def, Option.some.injEq] at last
      subst last
      have begun := comes.now_le
      simp only [elapsedAfter] at late
      dsimp only at instant ⊢
      omega

theorem noticed (goes : Goes overrun schedule probe origin trail ended) {since : Nat}
    (inTime : since ≤ origin.now + schedule.timeout)
    (instant : ∀ asking ∈ trail, asking.answered probe = asking.session.now)
    (lasting : ∀ asking ∈ trail, since ≤ asking.session.now → asking.answer probe ≠ .ok none)
    (attempts : UInt32) (elapsed : Nat) : ended.1 ≠ .ok (.timedOut attempts elapsed) := by
  intro spent
  obtain ⟨-, probed, pending, -⟩ := goes.late spent
  obtain ⟨asking, last⟩ : ∃ asking, asking ∈ trail.getLast? :=
    Option.isSome_iff_exists.1 (List.getLast?_isSome.2 probed)
  have member := List.mem_of_getLast? last
  exact lasting asking member (inTime.trans (goes.final spent last (instant asking member)))
    (pending asking member)

theorem cancels (goes : Goes overrun schedule probe origin trail ended) {attempts : UInt32}
    (cancelled : ended.1 = .ok (.cancelled attempts)) :
    attempts = UInt32.ofNat trail.length ∧ (∀ asking ∈ trail, asking.answer probe = .ok none) ∧
      ended.2.isCancelled = true := by
  cases goes with
  | failed | ready | timedOut | crashed => simp at cancelled
  | cancelled comes fired =>
      cases cancelled
      exact ⟨comes.attempts_eq, comes.pending, fired⟩
  | disturbed comes _ pending _ _ _ fired =>
      cases cancelled
      exact ⟨comes.attempts_concat, comes.pending_concat pending, fired⟩

theorem length_le (goes : Goes overrun schedule probe origin trail ended)
    (positive : 0 < schedule.interval) :
    trail.length ≤ schedule.timeout ⌈/⌉ schedule.interval + 1 := by
  cases goes with
  | cancelled comes => exact (comes.length_le positive).trans (Nat.le_succ _)
  | failed comes | ready comes | timedOut comes | crashed comes | disturbed comes =>
      rw [List.length_append]
      exact Nat.succ_le_succ (comes.length_le positive)

theorem orderly (goes : Goes overrun schedule probe origin trail ended) :
    Orderly overrun schedule probe origin trail ended where
  numbered := goes.numbered
  numbered_toNat := Asking.map_toNat_of_numbered goes.numbered
  live := goes.live
  ready_iff := goes.ready_iff
  failed_iff := goes.failed_iff
  told reached := not_overruns_of_told reached
  late _ _ := goes.late
  final _ _ spent _ := goes.final spent
  noticed _ inTime instant lasting := goes.noticed inTime instant lasting
  cancelled _ := goes.cancels
  bounded := goes.length_le

end Goes

/-! ## Polls in a session -/

/-- A probe that also keeps, beside the world, the numbers it was told. -/
def counted (probe : UInt32 → Call ω ε (Option β)) (attempt : UInt32) :
    Call (ω × List UInt32) ε (Option β) := fun (world, told) =>
  let reply := probe attempt world
  ⟨reply.answer, (reply.world, told ++ [attempt]), reply.took, reply.fired⟩

theorem counted_refines (probe : UInt32 → Call ω ε (Option β)) (attempt : UInt32) :
    Exchange.Refines Prod.fst (counted probe attempt) (probe attempt) :=
  fun _ => rfl

/-- A rest is never over before the pause is to end. -/
theorem wakeAfter_le (started : Nat) (session : Session ω) :
    wakeAfter schedule started session ≤ session.now + restAfter schedule started session :=
  Nat.add_le_add_left (Nat.le_max_right _ _) _

theorem comes_of_polled {attempts : UInt32} {last : Session (ω × List UInt32)}
    (polled : Polled overrun schedule (counted probe) origin.now 0 (origin.carrying []) attempts
      last) :
    ∃ trail, Comes overrun schedule probe origin attempts trail last.unloaded ∧
      last.world.2 = trail.map Asking.attempt := by
  induction polled with
  | start => exact ⟨[], .start, rfl⟩
  | @again attempts session _ live pending early told undisturbed inductionHypothesis =>
    obtain ⟨trail, comes, numbers⟩ := inductionHypothesis
    refine ⟨_, .again comes live pending early told ?_, ?_⟩
    · exact (wakeAfter_le _ _).trans (wake_le_pauseUntil _ _ undisturbed)
    · rw [world_restFor, List.map_append, ← numbers]
      rfl

theorem goes_of_pollEnd {attempts : UInt32} {last : Session (ω × List UInt32)}
    {ended : Except ε (Outcome β) × Session (ω × List UInt32)}
    (polled : Polled overrun schedule (counted probe) origin.now 0 (origin.carrying []) attempts
      last)
    (pollEnd : PollEnd overrun schedule (counted probe) origin.now attempts last ended) :
    ∃ trail, Goes overrun schedule probe origin trail (ended.1, ended.2.unloaded) ∧
      ended.2.world.2 = trail.map Asking.attempt := by
  obtain ⟨trail, comes, numbers⟩ := comes_of_polled polled
  have asked : (probed (counted probe) attempts last).world.2 =
      (trail ++ [Asking.mk (attempts + 1) last.unloaded]).map Asking.attempt := by
    rw [List.map_append, ← numbers]
    rfl
  cases pollEnd with
  | cancelled fired => exact ⟨trail, .cancelled comes fired, numbers⟩
  | failed live answer => exact ⟨_, .failed comes live answer, asked⟩
  | ready live answer => exact ⟨_, .ready comes live answer, asked⟩
  | timedOut live pending late => exact ⟨_, .timedOut comes live pending late, asked⟩
  | crashed live pending early untold => exact ⟨_, .crashed comes live pending early untold, asked⟩
  | disturbed live pending early told disturbed =>
    have forward : (probed (counted probe) attempts last).now ≤
        ((probed (counted probe) attempts last).restFor
          (restAfter schedule origin.now (probed (counted probe) attempts last))).2.now :=
      now_le_pauseUntil _ _
    refine ⟨_, .disturbed comes live pending early told forward (isCancelled_restFor disturbed), ?_⟩
    rw [world_restFor]
    exact asked

/-- A poll in a session is one of its courses, and its probes are told what the course says. -/
theorem poll_goes (overrun : Nat → Option ε) (schedule : Schedule)
    (probe : UInt32 → Call ω ε (Option β)) (session : Session ω) :
    ∃ trail, Goes overrun schedule probe session trail (session.poll overrun schedule probe) ∧
      ((session.carrying []).poll overrun schedule (counted probe)).2.world.2 =
        trail.map Asking.attempt := by
  obtain ⟨attempts, last, polled, pollEnd⟩ :=
    poll_ends overrun schedule (counted probe) (session.carrying [])
  have same : session.poll overrun schedule probe =
      (((session.carrying []).poll overrun schedule (counted probe)).1,
        ((session.carrying []).poll overrun schedule (counted probe)).2.unloaded) :=
    pollFrom_through (counted_refines probe) overrun schedule session.now 0 (session.carrying [])
  rw [same]
  exact goes_of_pollEnd polled pollEnd

/-- A session at the first instant of a clock. -/
def dawn (horizon : Nat) : Session Unit := ⟨(), 0, horizon, Token.fresh, fun _ => 0, 0⟩

/-- As many probes as there can be, at the instants 0, 2, 4 and 5. -/
example :
    (((dawn 5).carrying []).poll ((dawn 5).overrun ()) ⟨2, 5⟩
      (counted fun _ _ => (⟨.ok none, (), 0, false⟩ :
        Reply Unit (Except Unit (Option Unit))))).2.world.2 = [1, 2, 3, 4] := by
  decide +kernel

end Session

/-! ## The waits of the settings -/

/-- The schedules of the waits that settings lead to. -/
inductive Settings.Waits (settings : Settings) : Schedule → Prop
  | start : settings.Waits settings.lifecycle.timings.startSchedule
  | stop : settings.Waits settings.lifecycle.timings.stopSchedule
  | verdict (remaining : Nat) : settings.Waits ⟨settings.trust.timings.pollInterval, remaining⟩

theorem perSecond_le_pollInterval (seconds : UInt64) :
    Nanos.perSecond ≤ pollInterval seconds := by
  rw [pollInterval, Nanos.ofSeconds]
  exact Nat.le_mul_of_pos_left _ (Nat.le_max_right _ _)

theorem Settings.Waits.perSecond_le {settings : Settings} {schedule : Schedule}
    (waits : settings.Waits schedule) : Nanos.perSecond ≤ schedule.interval := by
  cases waits with
  | start | stop | verdict => exact perSecond_le_pollInterval _

/-- A wait of the settings makes a probe for every second, and one more. -/
theorem Settings.Waits.length_le {settings : Settings} {schedule : Schedule}
    {probe : UInt32 → Call ω ε (Option β)} {origin : Session ω} {trail : List (Asking ω)}
    {ended : Except ε (Outcome β) × Session ω} (waits : settings.Waits schedule)
    (goes : Session.Goes overrun schedule probe origin trail ended) :
    trail.length ≤ schedule.timeout ⌈/⌉ Nanos.perSecond + 1 := by
  have positive : 0 < Nanos.perSecond := by decide
  have long := waits.perSecond_le
  refine (goes.length_le (positive.trans_le long)).trans (Nat.succ_le_succ ?_)
  rw [ceilDiv_le_iff_le_mul (positive.trans_le long)]
  calc
    schedule.timeout ≤ Nanos.perSecond * (schedule.timeout ⌈/⌉ Nanos.perSecond) :=
      (ceilDiv_le_iff_le_mul positive).1 (Nat.le_refl _)
    _ ≤ schedule.interval * (schedule.timeout ⌈/⌉ Nanos.perSecond) := Nat.mul_le_mul_right _ long

namespace Session

/-- A poll makes its probes in turn and ends as the first that is not pending, the clock or the
token says, whatever the clock does beyond letting every rest last its span; on a positive interval
it comes to an end on every such clock, and so does every wait of the settings.  It fails without
a failing probe only before a pause whose end cannot be told. -/
theorem poll_orderly (overrun : Nat → Option ε) (schedule : Schedule)
    (probe : UInt32 → Call ω ε (Option β)) (session : Session ω) :
    (∃ trail, Goes overrun schedule probe session trail (session.poll overrun schedule probe) ∧
      ((session.carrying []).poll overrun schedule (counted probe)).2.world.2 =
        trail.map Asking.attempt) ∧
      (∀ trail ended, Goes overrun schedule probe session trail ended →
        Orderly overrun schedule probe session trail ended ∧
          ∀ settings : Settings, settings.Waits schedule →
            trail.length ≤ schedule.timeout ⌈/⌉ Nanos.perSecond + 1) ∧
      ∀ attempts trail later, Comes overrun schedule probe session attempts trail later →
        0 < schedule.interval → trail.length ≤ schedule.timeout ⌈/⌉ schedule.interval := by
  refine ⟨poll_goes overrun schedule probe session, ?_, fun _ _ _ comes => comes.length_le⟩
  intro trail ended goes
  exact ⟨goes.orderly, fun _ waits => waits.length_le goes⟩

/-- A probe that is pending and fires the token. -/
def firing (_attempt : UInt32) : Call Unit String (Option Unit) :=
  fun _ => ⟨.ok none, (), 0, true⟩

/-- Settings with the longest waits that can be given. -/
def boundless : Settings :=
  { Settings.standard with lifecycle := ⟨18446744073709551615, 18446744073709551615, 0, 0⟩ }

/-- A pause that ends after the last instant of the clock crashes although the token has fired by
then: its end is worked out before the token is looked at. -/
theorem poll_firing_crashes :
    boundless.Waits boundless.lifecycle.timings.startSchedule ∧
      ((dawn Nanos.lastOfClock).poll ((dawn Nanos.lastOfClock).overrun "crash")
          boundless.lifecycle.timings.startSchedule firing).1 = .error "crash" ∧
      ((dawn Nanos.lastOfClock).poll ((dawn Nanos.lastOfClock).overrun "crash")
          boundless.lifecycle.timings.startSchedule firing).2.isCancelled = true := by
  refine ⟨.start, ?_, ?_⟩ <;> decide +kernel

end Session

end Steward
