import Steward.Proofs.Trust.Running

/-!
# What steps ensure

A step is described by what has to hold before it, what holds of its value
when it succeeds, and what holds when it fails.  Such descriptions compose as
the steps do.
-/

namespace Steward.Work

variable {α ε β γ : Type}

/-- What a step leaves meets one condition if it succeeded and another if it failed. -/
def Meets (done : β → Artifact → Session (World α) → Prop)
    (failed : ε → Artifact → Session (World α) → Prop) :
    (Except ε β × Artifact) × Session (World α) → Prop
  | ((.ok value, reached), after) => done value reached after
  | ((.error failure, reached), after) => failed failure reached after

/-- From where the first condition holds, a step leaves what meets the other two. -/
def Ensures (before : Artifact → Session (World α) → Prop) (work : Work α ε β)
    (done : β → Artifact → Session (World α) → Prop)
    (failed : ε → Artifact → Session (World α) → Prop) : Prop :=
  ∀ artifact session, before artifact session → Meets done failed (work artifact session)

namespace Ensures

variable {before : Artifact → Session (World α) → Prop}
  {middle : β → Artifact → Session (World α) → Prop}
  {done : γ → Artifact → Session (World α) → Prop}
  {failed : ε → Artifact → Session (World α) → Prop}

theorem bind {work : Work α ε β} {next : β → Work α ε γ}
    (first : Ensures before work middle failed)
    (second : ∀ value, Ensures (middle value) (next value) done failed) :
    Ensures before (work >>= next) done failed := by
  intro artifact session holds
  have met := first artifact session holds
  rw [bind_apply]
  generalize work artifact session = left at met ⊢
  rcases left with ⟨⟨failure | value, reached⟩, after⟩
  · exact met
  · exact second value reached after met

/-- A fact that holds before a step may be used in saying what the step ensures. -/
theorem assuming {work : Work α ε β} {fact : Prop}
    (ensures : fact → Ensures before work middle failed) :
    Ensures (fun artifact session => fact ∧ before artifact session) work middle failed :=
  fun artifact session holds => ensures holds.1 artifact session holds.2

theorem inStage {work : Work α TrustError β} {stage : Stage}
    {failed : Stage × TrustError → Artifact → Session (World α) → Prop}
    (ensures : Ensures before work middle fun failure => failed (stage, failure)) :
    Ensures before (Pipeline.inStage stage work) middle failed := by
  intro artifact session holds
  have met := ensures artifact session holds
  rw [inStage_apply]
  generalize work artifact session = left at met ⊢
  rcases left with ⟨⟨failure | value, reached⟩, after⟩ <;> exact met

/-- Removing a path after a step ensures what still holds of the session without it. -/
theorem always {work : Work α TrustError β} {stage : Stage} {path : Path}
    {refused : TrustError → Artifact → Session (World α) → Prop}
    {kept : β → Artifact → Session (World α) → Prop}
    {failed : Stage × TrustError → Artifact → Session (World α) → Prop}
    (ensures : Ensures before work middle refused)
    (keeps : ∀ value reached after, middle value reached after →
      kept value reached (after.discarding path))
    (keepsRefused : ∀ failure reached after, refused failure reached after →
      failed (stage, failure) reached (after.discarding path)) :
    Ensures before (Work.always (Pipeline.inStage stage work) (FileAct.discard path)) kept
      failed := by
  intro artifact session holds
  have met := ensures artifact session holds
  rw [always_apply, inStage_apply]
  generalize work artifact session = left at met ⊢
  rcases left with ⟨⟨failure | value, reached⟩, after⟩
  · exact keepsRefused failure reached after met
  · exact keeps value reached after met

end Ensures

/-! ## All steps -/

/-- What each step ensures of what the one before has left, all steps ensure together. -/
theorem ensures_steps {pipeline : Pipeline α}
    {start signed verified : Artifact → Session (World α) → Prop}
    {packed : Path → Artifact → Session (World α) → Prop}
    {submitted accepted : Submission → Artifact → Session (World α) → Prop}
    {done : Unit → Artifact → Session (World α) → Prop}
    {failed : Stage × TrustError → Artifact → Session (World α) → Prop}
    (sign : Ensures start pipeline.sign (fun _ => signed) fun failure => failed (.sign, failure))
    (verify : Ensures signed (do Work.act (pipeline.verify (← get))) (fun _ => verified)
      fun failure => failed (.verify, failure))
    (package : Ensures verified pipeline.package packed fun failure => failed (.package, failure))
    (submit : ∀ archive, Ensures (packed archive)
      (Work.always (Pipeline.inStage .submit (pipeline.submit archive)) (FileAct.discard archive))
      submitted failed)
    (await : ∀ submission, Ensures (submitted submission) (pipeline.await submission)
      (fun answer artifact session =>
        match answer.1 with
        | .ok _ => accepted submission artifact session
        | .error failure => failed (.poll, failure) artifact session)
      failed)
    (staple : ∀ submission, Ensures (accepted submission) pipeline.staple done
      fun failure => failed (.staple, failure)) :
    Ensures start pipeline.steps done failed := by
  apply sign.inStage.bind
  intro _
  apply verify.inStage.bind
  intro _
  apply package.inStage.bind
  intro archive
  apply (submit archive).bind
  intro submission
  apply (await submission).bind
  rintro ⟨verdict, watched⟩
  cases verdict with
  | error failure => exact fun _ _ holds => holds
  | ok _ => exact (staple submission).inStage

end Steward.Work
