import Mathlib.Data.List.Induction
import Steward.Proofs.Files.Replacing
import Steward.Proofs.Files.Route
import Steward.Proofs.Files.Siblings

/-!
# Drafts

A file that is written as a draft beside its target and then moved stands at the
target, or the target is as it was.  A draft is left only where writing it broke
off, and then nothing else has changed.
-/

namespace Steward

namespace Path

/-- Every path is a front and what stands after its last slash. -/
theorem exists_endsIn (path : Path) : ∃ front name, path.EndsIn front name := by
  have split : ∀ text : List Char, ∃ front name, text = front ++ name ∧
      (front = [] ∨ ∃ earlier, front = earlier ++ ['/']) ∧ '/' ∉ name := by
    intro text
    induction text using List.reverseRecOn with
    | nil => exact ⟨[], [], rfl, .inl rfl, List.not_mem_nil⟩
    | append_singleton text c inductionHypothesis =>
      by_cases slash : c = '/'
      · subst slash
        exact ⟨text ++ ['/'], [], (List.append_nil _).symm, .inr ⟨text, rfl⟩, List.not_mem_nil⟩
      · rcases inductionHypothesis with ⟨front, name, rfl, ends, unslashed⟩
        exact ⟨front, name ++ [c], List.append_assoc .., ends, by simp [unslashed, Ne.symm slash]⟩
  rcases split path.text.toList with ⟨front, name, text, ends, unslashed⟩
  exact ⟨front, String.ofList name, by simp [text], ends, by simpa [Unslashed] using unslashed⟩

theorem EndsIn.extend {path : Path} {front : List Char} {name more : String}
    (ends : path.EndsIn front name) (unslashed : Unslashed more) :
    (path.extend more).EndsIn front (name ++ more) where
  text := by simp [Path.extend, ends.text]
  front := ends.front
  unslashed := ends.unslashed.append unslashed

end Path

namespace FileSystem

variable {files later : FileSystem} {path target : Path} {place : Place} {entry : Entry}
  {bytes : ByteArray} {text : String}

/-! ## Paths that lead to nothing -/

/-- What a path leads to after something has gone from a place was there before. -/
theorem lookupNoFollow_of_gone (here : later.here = files.here)
    (agrees : files.AgreesOff place later) (gone : later.find? place = none)
    (found : later.lookupNoFollow path = .ok entry) : files.lookupNoFollow path = .ok entry := by
  rcases lookupNoFollow_eq_ok_iff.1 found with ⟨accepted, goal, leads, stands⟩
  rw [startOf, here] at leads
  have before := leads.of_agreesOff agrees.symm (isPlain_of_absent gone)
  have elsewhere : goal ≠ place := by
    rintro rfl
    simp [gone] at stands
  rw [agrees goal elsewhere] at stands
  exact lookupNoFollow_eq_ok_iff.2 ⟨accepted, goal, before, stands⟩

theorem IsVacant.isUnlinked (vacant : files.IsVacant path) : files.IsUnlinked path :=
  fun target => vacant (.link target)

/-- Removing what another path leads to brings nothing to a path. -/
theorem lookupNoFollow_of_discarded {other : Path}
    (found : (files.discarded other).lookupNoFollow path = .ok entry) :
    files.lookupNoFollow path = .ok entry := by
  rw [FileSystem.discarded] at found
  cases removed : files.remove other with
  | error failure =>
    rw [removed] at found
    exact found
  | ok later =>
    rw [removed] at found
    rcases remove_eq_ok_iff.1 removed with ⟨place, entry, -, stands, solid, -, -, rfl⟩
    have below : place ≠ [] := by
      rintro rfl
      rw [find?_root] at stands
      exact solid (Option.some.inj stands).symm
    have absent : (files.without place).find? place = none := find?_without_self files below
    refine lookupNoFollow_of_gone ?_ (files.agreesOff_without place) absent found
    rfl

/-! ## A file and its draft -/

theorem unslashed_tmp : Unslashed ".tmp" := by
  decide

/-- A name with an ending is neither empty nor dots. -/
theorem proper_append_tmp (name : String) :
    ¬(name ++ ".tmp" = "" ∨ name ++ ".tmp" = ".") ∧ name ++ ".tmp" ≠ ".." := by
  have long : 4 ≤ (name ++ ".tmp").length := by
    rw [String.length_append]
    exact Nat.le_add_left 4 _
  constructor
  · rintro (same | same)
    · exact absurd (same ▸ long) (by decide)
    · exact absurd (same ▸ long) (by decide)
  · intro same
    exact absurd (same ▸ long) (by decide)

/-- A draft has a name of its own. -/
theorem draft_named (target : Path) :
    endsInName (target.extend ".tmp") = true ∧ (target.extend ".tmp").endsInSlash = false := by
  rcases target.exists_endsIn with ⟨front, name, ends⟩
  have draftEnds := ends.extend unslashed_tmp
  rcases proper_append_tmp name with ⟨spoken, downward⟩
  have named : name ++ ".tmp" ≠ "" := fun blank => spoken (.inl blank)
  have dotless : name ++ ".tmp" ≠ "." := fun dot => spoken (.inr dot)
  constructor
  · rw [draftEnds.endsInName_eq named]
    simp [dotless, downward]
  · exact draftEnds.endsInSlash named

/-- A path and its draft lead to different places. -/
theorem place_ne_draft {goal : Place}
    (leads : files.Leads false linkBudget (files.startOf target) (namesOf target.text) goal)
    (drafted : files.Leads false linkBudget (files.startOf (target.extend ".tmp"))
      (namesOf (target.extend ".tmp").text) place) : goal ≠ place := by
  rcases target.exists_endsIn with ⟨front, name, ends⟩
  have draftEnds := ends.extend unslashed_tmp
  rcases proper_append_tmp name with ⟨spoken, downward⟩
  rw [ends.namesOf] at leads
  rw [draftEnds.namesOf, draftEnds.startOf_eq files ends] at drafted
  rcases leads.last_step with ⟨parent, before, -, last⟩
  rcases drafted.last_name spoken downward with ⟨parent', before', -, rfl⟩
  obtain rfl := before.unique before'
  intro same
  have lengths := congrArg List.length same
  rw [List.length_append, List.length_singleton] at lengths
  cases last with
  | silent => omega
  | up =>
    rw [List.length_dropLast] at lengths
    omega
  | proper =>
    have names : name = name ++ ".tmp" := List.singleton_inj.1 (List.append_inj' same rfl).2
    have long := congrArg String.length names
    have ending : ".tmp".length = 4 := by decide
    rw [String.length_append] at long
    omega

theorem resolveTarget_draft (accepted : acceptable (target.extend ".tmp") = .ok ())
    (drafted : files.Leads false linkBudget (files.startOf (target.extend ".tmp"))
      (namesOf (target.extend ".tmp").text) place) :
    files.resolveTarget (target.extend ".tmp") = .ok place := by
  obtain ⟨-, written, -⟩ := acceptable_eq_ok_iff.1 accepted
  refine resolveTarget_eq_ok_iff.2 ⟨accepted, ?_⟩
  rw [namesBeforeSlashes_eq written (draft_named target).2]
  exact drafted

/-- A draft that is moved is nowhere but at the target. -/
theorem Moves.isVacant_draft {goal : Place}
    (moves : files.Moves (target.extend ".tmp") target bytes place goal later) :
    later.IsVacant (target.extend ".tmp") := by
  have gone := moves.gone (place_ne_draft moves.leads moves.drafted)
  intro entry stands
  rcases lookupNoFollow_eq_ok_iff.1 stands with ⟨-, spot, reached, stands⟩
  rw [moves.startOf] at reached
  obtain rfl := (moves.leads_back reached).unique moves.drafted
  simp [gone] at stands

/-- The files where only the place of a draft may hold something else than before, and no link
stands there before or after. -/
structure DiffersAt (files : FileSystem) (draft : Path) (place : Place) (later : FileSystem) :
    Prop where
  resolved : files.resolveTarget draft = .ok place
  drafted : files.Leads false linkBudget (files.startOf draft) (namesOf draft.text) place
  plain : files.IsPlain place
  plainLater : later.IsPlain place
  here : later.here = files.here
  agrees : files.AgreesOff place later

/-- A draft whose writing broke off is in a file, and everything else is as it was. -/
structure Begins (files : FileSystem) (draft : Path) (bytes : ByteArray) (place : Place)
    (later : FileSystem) : Prop extends DiffersAt files draft place later where
  begun : later.find? place = some (.file bytes)

/-- A draft that is discarded leaves the files as they were, but for a file that stood in its
place. -/
structure Discards (files : FileSystem) (draft : Path) (place : Place) (later : FileSystem) :
    Prop extends DiffersAt files draft place later where
  gone : later.find? place = none

namespace DiffersAt

variable {draft : Path} (differs : files.DiffersAt draft place later)
include differs

/-- Every path leads to the same place as before. -/
theorem leads_iff {goal : Place} :
    later.Leads false linkBudget (later.startOf path) (namesOf path.text) goal ↔
      files.Leads false linkBudget (files.startOf path) (namesOf path.text) goal := by
  rw [startOf, startOf, differs.here]
  exact ⟨Leads.of_agreesOff differs.agrees.symm differs.plainLater,
    Leads.of_agreesOff differs.agrees differs.plain⟩

/-- A path that leads elsewhere leads to the same as before. -/
theorem lookupNoFollow_iff
    (apart : ∀ goal, files.Leads false linkBudget (files.startOf path) (namesOf path.text) goal →
      goal ≠ place) :
    later.lookupNoFollow path = .ok entry ↔ files.lookupNoFollow path = .ok entry := by
  rw [lookupNoFollow_eq_ok_iff, lookupNoFollow_eq_ok_iff]
  constructor
  · rintro ⟨accepted, goal, leads, stands⟩
    have before := differs.leads_iff.1 leads
    exact ⟨accepted, goal, before, differs.agrees goal (apart goal before) ▸ stands⟩
  · rintro ⟨accepted, goal, leads, stands⟩
    exact ⟨accepted, goal, differs.leads_iff.2 leads,
      (differs.agrees goal (apart goal leads)).trans stands⟩

end DiffersAt

/-- The target of a draft leads to the same as before. -/
theorem DiffersAt.lookupNoFollow_target
    (differs : files.DiffersAt (target.extend ".tmp") place later) :
    later.lookupNoFollow target = .ok entry ↔ files.lookupNoFollow target = .ok entry :=
  differs.lookupNoFollow_iff fun _ leads => place_ne_draft leads differs.drafted

theorem exists_begins {middle : FileSystem} (bare : files.IsUnlinked (target.extend ".tmp"))
    (written : files.write (target.extend ".tmp") bytes = .ok middle) :
    ∃ place, files.Begins (target.extend ".tmp") bytes place middle.spent := by
  have accepted : acceptable (target.extend ".tmp") = .ok () := by
    rcases write_eq_ok_iff.1 written with ⟨_, resolved, -, -⟩
    exact (resolve_eq_ok_iff.1 resolved).1
  rcases bare.write written with ⟨place, drafted, plain, below, rfl⟩
  have begun : (files.put place (.file bytes)).spent.find? place = some (.file bytes) :=
    find?_put_self files _ below
  exact ⟨place,
    { resolved := resolveTarget_draft accepted drafted
      drafted := drafted
      plain := plain
      plainLater := fun entry stands => ⟨bytes, Option.some.inj (stands.symm.trans begun)⟩
      here := rfl
      agrees := files.agreesOff_put place (.file bytes)
      begun := begun }⟩

namespace Begins

variable (begins : files.Begins (target.extend ".tmp") bytes place later)
include begins

theorem resolvedLater : later.resolveTarget (target.extend ".tmp") = .ok place :=
  resolveTarget_draft (acceptable_of_resolveTarget begins.resolved)
    (begins.leads_iff.2 begins.drafted)

/-- The draft leads to the bytes that are written. -/
theorem lookupNoFollow_draft :
    later.lookupNoFollow (target.extend ".tmp") = .ok (.file bytes) :=
  lookupNoFollow_eq_ok_iff.2 ⟨acceptable_of_resolveTarget begins.resolved, place,
    begins.leads_iff.2 begins.drafted, begins.begun⟩

theorem discards :
    files.Discards (target.extend ".tmp") place (later.discarded (target.extend ".tmp")) := by
  have below : place ≠ [] := by
    rintro rfl
    simpa using begins.begun
  have removed := remove_eq_ok_iff.2 ⟨place, _, begins.resolvedLater, begins.begun, by simp,
    (draft_named target).1, (draft_named target).2, rfl⟩
  have gone : (later.without place).find? place = none := find?_without_self _ below
  rw [discarded, removed]
  exact
    { resolved := begins.resolved
      drafted := begins.drafted
      plain := begins.plain
      plainLater := isPlain_of_absent gone
      here := begins.here
      agrees := fun other distinct =>
        (find?_without_of_ne _ distinct).trans (begins.agrees other distinct)
      gone := gone }

end Begins

theorem Discards.isVacant {draft : Path} (discards : files.Discards draft place later) :
    later.IsVacant draft := by
  intro entry stands
  rcases lookupNoFollow_eq_ok_iff.1 stands with ⟨-, spot, reached, stands⟩
  obtain rfl := (discards.leads_iff.1 reached).unique discards.drafted
  simp [discards.gone] at stands

/-- How text is put in place where no link stands at the draft. -/
inductive Replacement (files : FileSystem) (target : Path) (text : String) :
    Except (Path × IoError) Unit × FileSystem → Prop
  | refused {failure : IoError} :
      Replacement files target text (.error (target.extend ".tmp", failure), files)
  | moved {place goal : Place} {later : FileSystem}
      (moves : files.Moves (target.extend ".tmp") target text.toUTF8 place goal later) :
      Replacement files target text (.ok (), later)
  | discarded {failure : IoError} {place : Place} {later : FileSystem}
      (discards : files.Discards (target.extend ".tmp") place later) :
      Replacement files target text (.error (target, failure), later)
  | broken {mishap : Mishap} {place : Place} {later : FileSystem}
      (befalls : files.mishap? = some mishap)
      (begins : files.Begins (target.extend ".tmp") (text.toUTF8.extract 0 mishap.kept) place
        later) :
      Replacement files target text (.error (target.extend ".tmp", mishap.cause), later)

theorem replacement (bare : files.IsUnlinked (target.extend ".tmp")) (text : String) :
    files.Replacement target text (FileAct.replace target (target.extend ".tmp") text files) := by
  have ended := FileAct.replace_ends target (target.extend ".tmp") text files
  generalize FileAct.replace target (target.extend ".tmp") text files = left at ended ⊢
  cases ended with
  | refused => exact .refused
  | moved _ wrote moved =>
    rcases exists_moves bare wrote moved with ⟨place, goal, moves⟩
    exact .moved moves
  | discarded _ wrote _ =>
    rcases exists_begins bare wrote with ⟨place, begins⟩
    exact .discarded begins.discards
  | broken befalls wrote =>
    rcases exists_begins bare wrote with ⟨place, begins⟩
    exact .broken befalls begins

/-! ## Replacing a file -/

/-- Bytes have been put in place at a target. -/
structure Placed (files : FileSystem) (target : Path) (bytes : ByteArray) (later : FileSystem) :
    Prop where
  /-- They are in a file where the target led. -/
  file : ∃ goal, files.resolveTarget target = .ok goal ∧ later.find? goal = some (.file bytes)
  /-- The target leads there, unless it goes on its way through a link that the file replaces. -/
  reached : files.KeepsWay target → later.lookupNoFollow target = .ok (.file bytes)
  draftless : later.IsVacant (target.extend ".tmp")
  kept : ∀ place, files.resolveTarget target ≠ .ok place →
    files.resolveTarget (target.extend ".tmp") ≠ .ok place → later.find? place = files.find? place

/-- Nothing has been put in place at a target where bytes were to be. -/
structure Spared (files : FileSystem) (target : Path) (bytes : ByteArray) (later : FileSystem) :
    Prop where
  /-- The target leads to what it led to. -/
  entry : ∀ entry, later.lookupNoFollow target = .ok entry ↔ files.lookupNoFollow target = .ok entry
  /-- The place of the draft is as it was or empty, but for a draft whose writing broke off. -/
  draft : ∀ place, files.resolveTarget (target.extend ".tmp") = .ok place →
    later.find? place = files.find? place ∨ later.find? place = none ∨
      ∃ mishap, files.mishap? = some mishap ∧
        later.find? place = some (.file (bytes.extract 0 mishap.kept))
  kept : ∀ place, files.resolveTarget (target.extend ".tmp") ≠ .ok place →
    later.find? place = files.find? place

theorem Spared.refl (files : FileSystem) (target : Path) (bytes : ByteArray) :
    files.Spared target bytes files where
  entry := fun _ => Iff.rfl
  draft := fun _ _ => .inl rfl
  kept := fun _ _ => rfl

/-- Nothing has been put in place where only the place of the draft differs. -/
theorem DiffersAt.spared (differs : files.DiffersAt (target.extend ".tmp") place later)
    (draft : later.find? place = none ∨ ∃ mishap, files.mishap? = some mishap ∧
      later.find? place = some (.file (bytes.extract 0 mishap.kept))) :
    files.Spared target bytes later where
  entry := fun _ => differs.lookupNoFollow_target
  draft := by
    intro other resolved
    obtain rfl := Except.ok.inj (differs.resolved.symm.trans resolved)
    exact .inr draft
  kept := by
    intro other elsewhere
    refine differs.agrees other ?_
    rintro rfl
    exact elsewhere differs.resolved

theorem Moves.placed {goal : Place}
    (moves : files.Moves (target.extend ".tmp") target bytes place goal later) :
    files.Placed target bytes later := by
  have drafted : files.resolveTarget (target.extend ".tmp") = .ok place :=
    resolveTarget_draft moves.draftable moves.drafted
  constructor
  · exact ⟨goal, moves.resolved, moves.here⟩
  · exact moves.lookupNoFollow
  · exact moves.isVacant_draft
  · intro other elsewhere draftless
    refine moves.kept ?_ ?_
    · rintro rfl
      exact draftless drafted
    · rintro rfl
      exact elsewhere moves.resolved

/-- Text is put in place or the target is left as it was, if no link stands at the draft. -/
theorem replace_places (bare : files.IsUnlinked (target.extend ".tmp")) (text : String) :
    match FileAct.replace target (target.extend ".tmp") text files with
    | (.ok _, later) => files.Placed target text.toUTF8 later
    | (.error _, later) => files.Spared target text.toUTF8 later := by
  have ended := replacement bare text
  generalize FileAct.replace target (target.extend ".tmp") text files = left at ended ⊢
  cases ended with
  | refused => exact .refl files target _
  | moved moves => exact moves.placed
  | discarded discards => exact discards.spared (.inl discards.gone)
  | broken befalls begins => exact begins.spared (.inr ⟨_, befalls, begins.begun⟩)

/-- The disk has room for three more bytes. -/
def filled (files : FileSystem) : FileSystem :=
  { files with mishaps := [some ⟨3, .system 28⟩] }

end FileSystem

end Steward
