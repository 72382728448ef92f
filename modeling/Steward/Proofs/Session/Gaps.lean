import Mathlib.Logic.Relation
import Steward.Proofs.Files.Running
import Steward.Proofs.Session.Journal
import Steward.Proofs.Session.Polling

/-!
# Changes between calls

What a computation does to the files itself it does between its calls.  The
gaps of a journal are these stretches: from the files a computation starts
with to those its first call finds, from those that a call leaves to those the
next finds, and from the last call to the end.
-/

namespace Steward

open Relation (ReflTransGen)

variable {α ε ε' β γ κ : Type}

/-- In every gap of a journal the files change by the given steps only. -/
def Journal.Gaps (step : FileSystem → FileSystem → Prop) :
    FileSystem → Journal κ → FileSystem → Prop
  | first, [], last => ReflTransGen step first last
  | first, line :: rest, last =>
    ReflTransGen step first line.before ∧ Gaps step line.after rest last

namespace Journal.Gaps

variable {step : FileSystem → FileSystem → Prop} {first middle last : FileSystem}
  {lines more : Journal κ}

theorem refl (files : FileSystem) : Gaps (κ := κ) step files [] files :=
  ReflTransGen.refl

theorem after_changes (changes : ReflTransGen step first middle)
    (gaps : Gaps step middle lines last) : Gaps step first lines last := by
  cases lines with
  | nil => exact changes.trans gaps
  | cons line rest => exact ⟨changes.trans gaps.1, gaps.2⟩

theorem append (earlier : Gaps step first lines middle) (later : Gaps step middle more last) :
    Gaps step first (lines ++ more) last := by
  induction lines generalizing first with
  | nil => exact later.after_changes earlier
  | cons line rest inductionHypothesis =>
    exact ⟨earlier.1, inductionHypothesis earlier.2⟩

/-- Weaker steps have the same gaps. -/
theorem mono {weaker : FileSystem → FileSystem → Prop}
    (weaken : ∀ files later, step files later → weaker files later)
    (gaps : Gaps step first lines last) : Gaps weaker first lines last := by
  induction lines generalizing first with
  | nil => exact ReflTransGen.mono weaken _ _ gaps
  | cons line rest inductionHypothesis =>
    exact ⟨ReflTransGen.mono weaken _ _ gaps.1, inductionHypothesis gaps.2⟩

end Journal.Gaps

/-- The files that are found after some of the calls: those that the next call finds, or the
last. -/
def Journal.next : Journal κ → FileSystem → FileSystem
  | [], last => last
  | line :: _, _ => line.before

section Keeps

variable {step : FileSystem → FileSystem → Prop} {first last : FileSystem}
  {P : FileSystem → Prop} {front middle back : Journal κ} {line : Line κ}

theorem keeps_of_steps (steps : ∀ files later, step files later → P files → P later)
    (changes : ReflTransGen step first last) (before : P first) : P last := by
  induction changes with
  | refl => exact before
  | tail _ stepped inductionHypothesis => exact steps _ _ stepped inductionHypothesis

/-- What the steps keep, and some calls one after the other, is still there after those calls. -/
theorem Journal.Gaps.keeps (steps : ∀ files later, step files later → P files → P later)
    (calls : ∀ line ∈ middle, P line.before → P line.after)
    (gaps : Gaps step first (middle ++ back) last) (before : P first) :
    P (Journal.next back last) := by
  induction middle generalizing first with
  | nil =>
    cases back with
    | nil => exact keeps_of_steps steps gaps before
    | cons next rest => exact keeps_of_steps steps gaps.1 before
  | cons other rest inductionHypothesis =>
    have called := calls other List.mem_cons_self (keeps_of_steps steps gaps.1 before)
    exact inductionHypothesis (fun line member => calls line (List.mem_cons_of_mem _ member))
      gaps.2 called

/-- What a call has left is kept in the same way. -/
theorem Journal.Gaps.keeps_after (steps : ∀ files later, step files later → P files → P later)
    (calls : ∀ line ∈ middle, P line.before → P line.after)
    (gaps : Gaps step first (front ++ line :: (middle ++ back)) last) (before : P line.after) :
    P (Journal.next back last) := by
  induction front generalizing first with
  | nil => exact Gaps.keeps steps calls gaps.2 before
  | cons other rest inductionHypothesis => exact inductionHypothesis gaps.2

/-- What the steps keep holds before and after each of them. -/
theorem holds_of_steps (steps : ∀ files later, step files later → P files → P later)
    (changes : ReflTransGen step first last) (before : P first) :
    ReflTransGen (fun files later => step files later ∧ P files ∧ P later) first last := by
  induction changes with
  | refl => exact .refl
  | tail earlier stepped inductionHypothesis =>
    have held := keeps_of_steps steps earlier before
    exact inductionHypothesis.tail ⟨stepped, held, steps _ _ stepped held⟩

/-- What the steps and the calls keep holds all along: before and after each of them. -/
theorem Journal.Gaps.holds {lines : Journal κ}
    (steps : ∀ files later, step files later → P files → P later)
    (calls : ∀ line ∈ lines, P line.before → P line.after)
    (gaps : Gaps step first lines last) (before : P first) :
    Gaps (fun files later => step files later ∧ P files ∧ P later) first lines last ∧
      (∀ line ∈ lines, P line.before ∧ P line.after) ∧ P last := by
  induction lines generalizing first with
  | nil => exact ⟨holds_of_steps steps gaps before, nofun, keeps_of_steps steps gaps before⟩
  | cons line rest inductionHypothesis =>
    obtain ⟨here, onward⟩ := gaps
    have found : P line.before := keeps_of_steps steps here before
    have left : P line.after := calls line List.mem_cons_self found
    obtain ⟨later, held, final⟩ := inductionHypothesis
      (fun other member => calls other (List.mem_cons_of_mem line member)) onward left
    exact ⟨⟨holds_of_steps steps here before, later⟩,
      List.forall_mem_cons.2 ⟨⟨found, left⟩, held⟩, final⟩

end Keeps

/-- The calls of a journal explain what has become of the files: in its gaps nothing changes. -/
structure Journal.Explains (first : FileSystem) (lines : Journal κ) (last : FileSystem) : Prop where
  gaps : Journal.Gaps (fun _ _ => False) first lines last

namespace Journal.Explains

variable {first middle last : FileSystem} {lines more : Journal κ}

theorem refl (files : FileSystem) : Explains (κ := κ) files [] files :=
  ⟨.refl files⟩

theorem append (earlier : Explains first lines middle) (later : Explains middle more last) :
    Explains first (lines ++ more) last :=
  ⟨earlier.gaps.append later.gaps⟩

theorem single (call : κ) (files later : FileSystem) :
    Explains files [⟨call, files, later⟩] later :=
  ⟨ReflTransGen.refl, ReflTransGen.refl⟩

/-- What every call keeps is kept throughout. -/
theorem keeps {P : FileSystem → Prop} (explains : Explains first lines last)
    (calls : ∀ line ∈ lines, P line.before → P line.after) (before : P first) : P last := by
  have gaps := explains.gaps
  rw [← List.append_nil lines] at gaps
  exact gaps.keeps nofun calls before

end Journal.Explains

/-- From one session to a later one the journal has grown, and in its gaps the files have changed
by the given steps only. -/
def Session.Gaps (step : FileSystem → FileSystem → Prop)
    (first last : Session (World (α × Journal κ))) : Prop :=
  ∃ lines, last.journal = first.journal ++ lines ∧
    Journal.Gaps step first.world.files lines last.world.files

/-- Between its calls a computation changes the files by the given steps only. -/
def Act.Steps (step : FileSystem → FileSystem → Prop)
    (act : Act (World (α × Journal κ)) ε β) : Prop :=
  ∀ session : Session (World (α × Journal κ)), session.Gaps step (act session).2

/-- Run on the given files, a computation changes them by the given steps only. -/
def FileAct.StepsFrom (step : FileSystem → FileSystem → Prop) (files : FileSystem)
    (act : FileAct ε β) : Prop :=
  ReflTransGen step files (act files).2

/-- A computation on files changes them by the given steps only. -/
def FileAct.Steps (step : FileSystem → FileSystem → Prop) (act : FileAct ε β) : Prop :=
  ∀ files, FileAct.StepsFrom step files act

variable {step : FileSystem → FileSystem → Prop}

namespace Session.Gaps

variable {first middle last : Session (World (α × Journal κ))}

/-- A session with the same world as another. -/
theorem of_world_eq (same : last.world = first.world) : first.Gaps step last := by
  refine ⟨[], ?_, ?_⟩
  · rw [journal, same, List.append_nil]
    rfl
  · rw [same]
    exact .refl _

theorem refl (session : Session (World (α × Journal κ))) : session.Gaps step session :=
  of_world_eq rfl

theorem trans (earlier : first.Gaps step middle) (later : middle.Gaps step last) :
    first.Gaps step last := by
  obtain ⟨lines, grown, gaps⟩ := earlier
  obtain ⟨more, grownMore, gapsMore⟩ := later
  exact ⟨lines ++ more, by rw [grownMore, grown, List.append_assoc], gaps.append gapsMore⟩

/-- The gaps since a session that began a journal are those of the whole journal. -/
theorem of_recording {session : Session (World α)}
    (gaps : (session.recording (κ := κ)).Gaps step last) :
    Journal.Gaps step session.world.files last.journal last.world.files := by
  obtain ⟨lines, grown, gaps⟩ := gaps
  rw [grown]
  exact gaps

/-- Weaker steps have the same gaps. -/
theorem mono {weaker : FileSystem → FileSystem → Prop}
    (gaps : first.Gaps step last)
    (weaken : ∀ files later, step files later → weaker files later) :
    first.Gaps weaker last := by
  obtain ⟨lines, grown, gaps⟩ := gaps
  exact ⟨lines, grown, gaps.mono weaken⟩

/-- A recorded request is a call, in which the program itself changes nothing. -/
theorem exchange (note : β → κ) (request : Exchange (World α) β)
    (session : Session (World (α × Journal κ))) :
    session.Gaps step (session.exchange (request.recorded note)).2 :=
  ⟨_, journal_exchange note request session, ReflTransGen.refl, ReflTransGen.refl⟩

/-- A recorded request after which nothing more is asked is a call too. -/
theorem exchange_bind (note : β → κ) (request : Exchange (World α) β)
    {next : β → Exchange (World (α × Journal κ)) γ}
    (still : ∀ answer world, (next answer world).world = world)
    (session : Session (World (α × Journal κ))) :
    session.Gaps step (session.exchange (request.recorded note >>= next)).2 := by
  have same : (session.exchange (request.recorded note >>= next)).2.world =
      (session.exchange (request.recorded note)).2.world := still _ _
  exact (exchange note request session).trans (of_world_eq same)

/-- What is done next starts in the session that is left. -/
theorem bind {session : Session (World (α × Journal κ))}
    {act : Act (World (α × Journal κ)) ε β} {next : β → Act (World (α × Journal κ)) ε γ}
    (first : session.Gaps step (act session).2)
    (second : ∀ value after, act session = (.ok value, after) →
      after.Gaps step (next value after).2) :
    session.Gaps step ((act >>= next) session).2 := by
  rw [Act.bind_apply]
  rcases left : act session with ⟨failure | value, after⟩ <;> rw [left] at first
  · exact first
  · exact first.trans (second value after left)

theorem onFiles {session : Session (World (α × Journal κ))} {act : FileAct ε β}
    (steps : FileAct.StepsFrom step session.world.files act) :
    session.Gaps step (Act.onFiles act session).2 := by
  refine ⟨[], ?_, steps⟩
  rw [List.append_nil]
  rfl

end Session.Gaps

/-! ## Computations on files -/

namespace FileAct.Steps

theorem pure (value : β) : FileAct.Steps step (pure value : FileAct ε β) :=
  fun _ => ReflTransGen.refl

theorem throw (failure : ε) : FileAct.Steps step (throw failure : FileAct ε β) :=
  fun _ => ReflTransGen.refl

/-- Nothing is done after a failure. -/
theorem throw_bind (failure : ε) (next : β → FileAct ε γ) :
    FileAct.Steps step (MonadExcept.throw failure >>= next) :=
  fun _ => ReflTransGen.refl

theorem bind {act : FileAct ε β} {next : β → FileAct ε γ} (first : FileAct.Steps step act)
    (second : ∀ value, FileAct.Steps step (next value)) : FileAct.Steps step (act >>= next) := by
  intro files
  have changes : ReflTransGen step files (act files).2 := first files
  rw [StepsFrom, FileAct.bind_apply]
  generalize act files = left at changes ⊢
  rcases left with ⟨failure | value, later⟩
  · exact changes
  · exact changes.trans (second value later)

theorem ite {condition : Prop} [Decidable condition] {act other : FileAct ε β}
    (positive : FileAct.Steps step act) (negative : FileAct.Steps step other) :
    FileAct.Steps step (if condition then act else other) := by
  split
  · exact positive
  · exact negative

theorem adapt {act : FileAct ε β} (f : ε → ε') (steps : FileAct.Steps step act) :
    FileAct.Steps step (ExceptT.adapt f act : FileAct ε' β) :=
  steps

/-- Weaker steps are enough. -/
theorem mono {weaker : FileSystem → FileSystem → Prop} {act : FileAct ε β}
    (weaken : ∀ files later, step files later → weaker files later)
    (steps : FileAct.Steps step act) : FileAct.Steps weaker act :=
  fun files => ReflTransGen.mono weaken _ _ (steps files)

/-- What is done next may depend on the files. -/
theorem get {next : FileSystem → FileAct ε β}
    (steps : ∀ files, FileAct.StepsFrom step files (next files)) :
    FileAct.Steps step (get >>= next) :=
  steps

end FileAct.Steps

/-! ## Computations -/

namespace Act.Steps

theorem pure (value : β) :
    Act.Steps (α := α) (κ := κ) step (pure value : Act _ ε β) :=
  Session.Gaps.refl

theorem throw (failure : ε) :
    Act.Steps (α := α) (κ := κ) step (throw failure : Act _ ε β) :=
  Session.Gaps.refl

/-- Nothing is done after a failure. -/
theorem throw_bind (failure : ε) (next : β → Act (World (α × Journal κ)) ε γ) :
    Act.Steps step (MonadExcept.throw failure >>= next) :=
  Session.Gaps.refl

theorem bind {act : Act (World (α × Journal κ)) ε β}
    {next : β → Act (World (α × Journal κ)) ε γ} (first : Act.Steps step act)
    (second : ∀ value, Act.Steps step (next value)) : Act.Steps step (act >>= next) :=
  fun session => .bind (first session) fun value after _ => second value after

theorem ite {condition : Prop} [Decidable condition]
    {act other : Act (World (α × Journal κ)) ε β} (positive : Act.Steps step act)
    (negative : Act.Steps step other) : Act.Steps step (if condition then act else other) := by
  split
  · exact positive
  · exact negative

theorem attempt (note : Except ε' β → κ) (request : Call (World α) ε' β) :
    Act.Steps step (Act.attempt (Exchange.recorded note request) : Act _ ε _) :=
  Session.Gaps.exchange note request

theorem isCancelled : Act.Steps (α := α) (κ := κ) step (Act.isCancelled : Act _ ε _) :=
  Session.Gaps.refl

theorem pause (crash : ε) (span : Nat) :
    Act.Steps (α := α) (κ := κ) step (Act.pause crash span : Act _ ε _) :=
  fun session => .of_world_eq (session.world_pause crash span)

theorem outcome {act : Act (World (α × Journal κ)) ε' β} (steps : Act.Steps step act) :
    Act.Steps step (act.outcome : Act _ ε _) :=
  steps

theorem files : Act.Steps (α := α) (κ := κ) step (Act.files : Act _ ε _) :=
  Session.Gaps.refl

theorem onFiles {act : FileAct ε β} (steps : FileAct.Steps step act) :
    Act.Steps (α := α) (κ := κ) step (Act.onFiles act) :=
  fun session => .onFiles (steps session.world.files)

/-- A poll changes the files no more than its probes do. -/
theorem poll {probe : UInt32 → Call (World (α × Journal κ)) ε (Option β)}
    (probes : ∀ attempt session, Session.Gaps step session (session.exchange (probe attempt)).2)
    (crash : ε) (schedule : Schedule) : Act.Steps step (Act.poll crash schedule probe) := by
  intro session
  obtain ⟨last, final, polled, ended⟩ :=
    session.poll_ends (session.overrun crash) schedule probe
  exact ended.keeps_throughout polled (.refl session)
    (fun _ _ earlier => earlier.trans (probes _ _)) fun _ _ earlier => earlier

end Act.Steps

end Steward
