import Steward.Proofs.Service.Operations
import Steward.Proofs.Settings.Saving

/-!
# The two files that are written

Descriptors and settings are written in one way: the directories above the file are made, the text
is written as a draft beside it, and the draft is moved into place.  Both end with the text in place
and no draft, or with what stood there before.  A draft is left only where writing it broke off.
-/

namespace Steward

open FileSystem
open Relation (ReflTransGen)

/-- One of the files that are written, and what is written. -/
inductive Writing
  | descriptor (path : Path) (text : String)
  | settings (home : Path) (values : Settings)

namespace Writing

/-- The file. -/
def target : Writing → Path
  | descriptor path _ => path
  | settings home _ => Settings.pathIn home

/-- The temporary name. -/
def draft : Writing → Path
  | descriptor path _ => path.extend ".tmp"
  | settings home _ => (Settings.pathIn home).withExtension "yaml.tmp"

def text : Writing → String
  | descriptor _ text => text
  | settings _ values => values.render

/-- Whether a computation succeeds, and the files it leaves. -/
def outcome {ε β : Type} (act : FileAct ε β) (files : FileSystem) : Bool × FileSystem :=
  ((act files).1.isOk, (act files).2)

/-- Whether the text is written, and the files after that. -/
def run : Writing → FileSystem → Bool × FileSystem
  | descriptor path text => outcome (Descriptor.store path text)
  | settings home values => outcome (Settings.save home values)

/-- Whether the directories above the file are made, and the files after that. -/
def prepare : Writing → FileSystem → Bool × FileSystem
  | descriptor path _ => outcome (Descriptor.makeParent path)
  | settings home _ => outcome (Settings.ensureParent (Settings.pathIn home))

/-- The files once the directories above the file have been made, as far as they can be. -/
def prepared (writing : Writing) (files : FileSystem) : FileSystem :=
  (writing.prepare files).2

variable (writing : Writing) (files : FileSystem)

theorem draft_eq : writing.draft = writing.target.extend ".tmp" := by
  cases writing with
  | descriptor path text => rfl
  | settings home values => exact Settings.withExtension_pathIn home

theorem outcome_bind {ε β γ : Type} (act : FileAct ε β) (next : β → FileAct ε γ)
    {rest : Bool × FileSystem} (same : ∀ value later, act files = (.ok value, later) →
      outcome (next value) later = rest) :
    outcome (act >>= next) files =
      if (outcome act files).1 then rest else (false, (outcome act files).2) := by
  rcases ran : act files with ⟨failure | value, later⟩
  · have stopped : (act >>= next) files = (.error failure, later) := by
      rw [FileAct.bind_apply, ran]
    simp only [outcome, ran, stopped]
    rfl
  · have onward : (act >>= next) files = next value later := by
      rw [FileAct.bind_apply, ran]
    rw [← same value later ran]
    simp only [outcome, ran, onward]
    rfl

theorem outcome_adapt {ε ε' β : Type} (f : ε → ε') (act : FileAct ε β) :
    outcome (ExceptT.adapt f act : FileAct ε' β) files = outcome act files := by
  simp only [outcome, FileAct.adapt_apply]
  cases (act files).1 <;> rfl

theorem outcome_bind_pure {ε β γ : Type} (act : FileAct ε β) (value : γ) :
    outcome (act >>= fun _ => pure value) files = outcome act files := by
  simp only [outcome, FileAct.bind_apply]
  rcases act files with ⟨_ | _, _⟩ <;> rfl

/-- Both writers make directories and go on with the draft if that succeeds. -/
theorem run_eq :
    writing.run files =
      if (writing.prepare files).1 then
        outcome (FileAct.replace writing.target writing.draft writing.text) (writing.prepared files)
      else (false, writing.prepared files) := by
  cases writing with
  | descriptor path text =>
    show outcome (Descriptor.store path text) files = _
    rw [Descriptor.store_eq]
    apply outcome_bind
    intro _ later made
    rw [outcome_adapt]
    simp only [prepared, prepare, outcome, made]
    rfl
  | settings home values =>
    rw [run, Settings.save]
    apply outcome_bind
    intro _ later made
    rw [outcome_bind_pure, outcome_adapt]
    simp only [prepared, prepare, outcome, made]
    rfl

section Ends

variable (bare : (writing.prepared files).IsUnlinked writing.draft)
include bare

/-- What a writer leaves, by whether it succeeds. -/
theorem run_ends :
    match writing.run files with
    | (true, later) =>
      (writing.prepared files).Placed writing.target writing.text.toUTF8 later
    | (false, later) =>
      (writing.prepared files).Spared writing.target writing.text.toUTF8 later := by
  have ran := writing.run_eq files
  rw [draft_eq] at ran bare
  have replaced := replace_places bare writing.text
  rw [ran]
  cases (writing.prepare files).1 with
  | false => exact .refl _ _ _
  | true =>
    rw [if_pos rfl, outcome]
    generalize FileAct.replace writing.target (writing.target.extend ".tmp") writing.text
      (writing.prepared files) = left at replaced ⊢
    obtain ⟨failure | _, later⟩ := left
    · exact replaced
    · exact replaced

end Ends

end Writing

end Steward
