import Steward.Proofs.Files.Route
import Steward.Proofs.Files.Siblings

/-!
# Putting a file in place

A file that is written as a draft, where no link stands, and then moved stands
where its target leads, and no other place changes but the one it was written
at.  A link at the draft would be followed by the write and moved in the place
of the file.  The target leads to the file still, unless it goes on its way
through a link that stood in the place of the file.
-/

namespace Steward.FileSystem

variable {files middle later : FileSystem} {path draft target directory : Path}
  {place goal : Place} {bytes : ByteArray} {name : String}

/-! ## What exists -/

theorem doesExist_of_file
    (stands : files.lookupNoFollow path = .ok (.file bytes)) : files.doesExist path = true := by
  obtain ⟨accepted, place, leads, found⟩ := lookupNoFollow_eq_ok_iff.1 stands
  have followed := leads.followed fun target link => by simp [found] at link
  have resolved := resolve_eq_ok_iff.2 ⟨accepted, followed⟩
  simp [doesExist, lookup, resolved, found, bind, Except.bind]

theorem doesExist_of_isVacant (vacant : files.IsVacant path) : files.doesExist path = false := by
  rw [doesExist, lookup]
  cases resolved : files.resolve path with
  | error failure => rfl
  | ok place =>
    cases found : files.find? place with
    | none => simp [found, bind, Except.bind]
    | some entry =>
      obtain ⟨accepted, leads⟩ := resolve_eq_ok_iff.1 resolved
      rcases leads.unfollowed_or_link with leads | ⟨nearer, target, leads, link⟩
      · exact absurd (lookupNoFollow_eq_ok_iff.2 ⟨accepted, place, leads, found⟩) (vacant _)
      · exact absurd (lookupNoFollow_eq_ok_iff.2 ⟨accepted, nearer, leads, link⟩) (vacant _)

/-! ## Links under a name -/

/-- No link stands under the last name of a path. -/
def IsUnlinked (files : FileSystem) (path : Path) : Prop :=
  ∀ target, files.lookupNoFollow path ≠ .ok (.link target)

instance (files : FileSystem) (path : Path) : Decidable (files.IsUnlinked path) :=
  match told : files.lookupNoFollow path with
  | .ok (.link target) => .isFalse fun unlinked => unlinked target told
  | .ok (.file _) | .ok .directory | .error _ => .isTrue fun target => by simp [told]

/-- The way to a path's directory goes through no link that stands under the path's last name. -/
def KeepsWay (files : FileSystem) (path : Path) : Prop :=
  ∀ place text, files.resolveTarget path = .ok place → files.find? place = some (.link text) →
    place ∉ files.routeToParent path

instance (files : FileSystem) (path : Path) : Decidable (files.KeepsWay path) :=
  match resolved : files.resolveTarget path with
  | .error _ => .isTrue fun place text other => by simp [resolved] at other
  | .ok place =>
    if free : place ∉ files.routeToParent path then
      .isTrue fun other text same _ => by
        rw [resolved] at same
        exact Except.ok.inj same ▸ free
    else
      match found : files.find? place with
      | some (.link text) => .isFalse fun keeps => free (keeps place text resolved found)
      | some (.file _) | some .directory | none => .isTrue fun other text same link => by
        rw [resolved] at same
        rw [← Except.ok.inj same, found] at link
        cases link

theorem IsUnlinked.keepsWay (unlinked : files.IsUnlinked path)
    (unended : path.endsInSlash = false) : files.KeepsWay path := by
  intro place text resolved link
  obtain ⟨accepted, leads⟩ := resolveTarget_eq_ok_iff.1 resolved
  obtain ⟨-, written, -⟩ := acceptable_eq_ok_iff.1 accepted
  rw [namesBeforeSlashes_eq written unended] at leads
  exact absurd (lookupNoFollow_eq_ok_iff.2 ⟨accepted, place, leads, link⟩) (unlinked text)

theorem Leads.unique {follow : Bool} {links : Nat} {start : Place} {names : List String}
    (first : files.Leads follow links start names place)
    (second : files.Leads follow links start names goal) : place = goal :=
  Except.ok.inj (first.walk.symm.trans second.walk)

theorem acceptable_of_resolveTarget (resolved : files.resolveTarget path = .ok place) :
    acceptable path = .ok () :=
  (resolveTarget_eq_ok_iff.1 resolved).1

/-- Where a path that does not end in a slash leads without following a link. -/
theorem leads_of_resolveTarget (unended : path.endsInSlash = false)
    (resolved : files.resolveTarget path = .ok place) :
    files.Leads false linkBudget (files.startOf path) (namesOf path.text) place := by
  obtain ⟨accepted, leads⟩ := resolveTarget_eq_ok_iff.1 resolved
  obtain ⟨-, written, -⟩ := acceptable_eq_ok_iff.1 accepted
  rwa [namesBeforeSlashes_eq written unended] at leads

/-- What is written where no link stands is written under the last name itself, where a file or
nothing stood. -/
theorem IsUnlinked.write (unlinked : files.IsUnlinked path)
    (written : files.write path bytes = .ok later) :
    ∃ place, files.Leads false linkBudget (files.startOf path) (namesOf path.text) place ∧
      files.IsPlain place ∧ place ≠ [] ∧ later = files.put place (.file bytes) := by
  obtain ⟨place, resolved, solid, rfl⟩ := write_eq_ok_iff.1 written
  obtain ⟨accepted, leads⟩ := resolve_eq_ok_iff.1 resolved
  have leads : files.Leads false linkBudget (files.startOf path) (namesOf path.text) place := by
    rcases leads.unfollowed_or_link with leads | ⟨nearer, target, leads, link⟩
    · exact leads
    · exact absurd (lookupNoFollow_eq_ok_iff.2 ⟨accepted, nearer, leads, link⟩) (unlinked _)
  refine ⟨place, leads, ?_, ?_, rfl⟩
  · intro entry found
    cases entry with
    | file bytes => exact ⟨bytes, rfl⟩
    | directory => exact absurd found solid
    | link target =>
        exact absurd (lookupNoFollow_eq_ok_iff.2 ⟨accepted, place, leads, found⟩) (unlinked _)
  · rintro rfl
    exact solid (find?_root files)

theorem isPlain_of_absent (absent : files.find? place = none) : files.IsPlain place := by
  intro entry stands
  simp [absent] at stands

/-! ## Moving what has been written -/

theorem routeToParent_under (written : directory.text ≠ "") (unslashed : Unslashed name) :
    files.routeToParent (directory.under name) = files.routeOf directory := by
  rw [routeToParent, namesOf_under unslashed, startOf_under written, List.dropLast_concat]
  rfl

/-- The files once bytes have been written at one place and moved to another. -/
structure Moves (files : FileSystem) (draft target : Path) (bytes : ByteArray) (place goal : Place)
    (later : FileSystem) : Prop where
  draftable : acceptable draft = .ok ()
  drafted : files.Leads false linkBudget (files.startOf draft) (namesOf draft.text) place
  plain : files.IsPlain place
  below : place ≠ []
  accepted : acceptable target = .ok ()
  named : endsInName target = true
  unended : target.endsInSlash = false
  leads : files.Leads false linkBudget (files.startOf target) (namesOf target.text) goal
  solid : files.find? goal ≠ some .directory
  changed : later = ((files.put place (.file bytes)).spent.without place).put goal (.file bytes)

/-- What is moved is what was written. -/
theorem exists_moves (bare : files.IsUnlinked draft)
    (written : files.write draft bytes = .ok middle)
    (moved : middle.spent.moveOver draft target = .ok later) :
    ∃ place goal, files.Moves draft target bytes place goal later := by
  obtain ⟨_, draftable, -, -⟩ := write_eq_ok_iff.1 written
  obtain ⟨place, drafted, plain, below, rfl⟩ := bare.write written
  obtain ⟨old, goal, entry, source, destination, found, -, free, unendedDraft, unended, rfl⟩ :=
    of_moveOver moved
  rw [resolveTarget_spent] at source destination
  have here : (files.put place (.file bytes)).find? place = some (.file bytes) :=
    find?_put_self files _ below
  have off := files.agreesOff_put place (.file bytes)
  have plainHere : (files.put place (.file bytes)).IsPlain place := by
    intro entry stands
    exact ⟨bytes, Option.some.inj (stands.symm.trans here)⟩
  obtain rfl : place = old :=
    (drafted.of_agreesOff off plain).unique (leads_of_resolveTarget unendedDraft source)
  obtain rfl : Entry.file bytes = entry := Option.some.inj (here.symm.trans found)
  have solid : files.find? goal ≠ some .directory := by
    intro directory
    rw [find?_spent, find?_put_of_ne _ _ (plain.ne_of_directory directory)] at free
    exact free directory
  exact ⟨place, goal, (resolve_eq_ok_iff.1 draftable).1, drafted, plain, below,
    acceptable_of_resolveTarget destination,
    (endsInName_of_moveOver moved).2, unended,
    (leads_of_resolveTarget unended destination).of_agreesOff off.symm plainHere, solid, rfl⟩

namespace Moves

variable (moves : files.Moves draft target bytes place goal later)
include moves

theorem resolved : files.resolveTarget target = .ok goal := by
  obtain ⟨-, written, -⟩ := acceptable_eq_ok_iff.1 moves.accepted
  refine resolveTarget_eq_ok_iff.2 ⟨moves.accepted, ?_⟩
  rw [namesBeforeSlashes_eq written moves.unended]
  exact moves.leads

theorem belowGoal : goal ≠ [] := by
  rintro rfl
  exact moves.solid (find?_root files)

theorem here : later.find? goal = some (.file bytes) := by
  rw [moves.changed]
  exact find?_put_self _ _ moves.belowGoal

theorem gone (apart : goal ≠ place) : later.find? place = none := by
  rw [moves.changed, find?_put_of_ne _ _ apart.symm]
  exact find?_without_self _ moves.below

theorem kept {other : Place} (draftless : other ≠ place) (elsewhere : other ≠ goal) :
    later.find? other = files.find? other := by
  rw [moves.changed, find?_put_of_ne _ _ elsewhere, find?_without_of_ne _ draftless, find?_spent,
    find?_put_of_ne _ _ draftless]

theorem startOf (path : Path) : later.startOf path = files.startOf path := by
  rw [moves.changed]
  rfl

/-- A walk leads nowhere else than before. -/
theorem leads_back {links : Nat} {start other : Place} {names : List String}
    (leads : later.Leads false links start names other) :
    files.Leads false links start names other := by
  have absent := find?_without_self (files.put place (.file bytes)).spent moves.below
  have agrees : files.AgreesOff place ((files.put place (.file bytes)).spent.without place) :=
    fun other distinct => (find?_without_of_ne _ distinct).trans (find?_put_of_ne files _ distinct)
  rw [moves.changed] at leads
  have plainGoal : (((files.put place (.file bytes)).spent.without place).put goal
      (.file bytes)).IsPlain goal := by
    intro entry stands
    rw [find?_put_self _ _ moves.belowGoal] at stands
    exact ⟨bytes, (Option.some.inj stands).symm⟩
  exact (leads.of_agreesOff (agreesOff_put _ _ _).symm plainGoal).of_agreesOff agrees.symm
    (isPlain_of_absent absent)

/-- The target has a last name that an object can have, in a directory. -/
theorem exists_parent :
    ∃ parent name, namesOf target.text = (namesOf target.text).dropLast ++ [name] ∧
      files.Leads true linkBudget (files.startOf target) (namesOf target.text).dropLast parent ∧
        files.find? parent = some .directory ∧ IsProper name ∧ goal = parent ++ [name] := by
  obtain ⟨-, written, -⟩ := acceptable_eq_ok_iff.1 moves.accepted
  have some : namesOf target.text ≠ [] := by simp [namesOf, Text.pieces_ne_nil]
  obtain ⟨earlier, name, split⟩ := (List.eq_nil_or_concat (namesOf target.text)).resolve_left some
  rw [List.concat_eq_append] at split
  have named := moves.named
  rw [endsInName, namesBeforeSlashes_eq written moves.unended, split, List.getLast?_concat] at named
  have leads := moves.leads
  rw [split] at leads
  obtain ⟨parent, before, directory, last⟩ := leads.last_step
  rw [split, List.dropLast_concat]
  refine ⟨parent, name, rfl, before, directory, ?_⟩
  cases last with
  | silent => exact absurd directory moves.solid
  | up upward => simp [upward] at named
  | proper proper => exact ⟨proper, rfl⟩

/-- The target leads to the file, if it does not follow a link on its way that stood in the place of
the file. -/
theorem lookupNoFollow (apart : files.KeepsWay target) :
    later.lookupNoFollow target = .ok (.file bytes) := by
  obtain ⟨parent, name, split, before, directory, proper, inside⟩ := moves.exists_parent
  have directories : ∀ other, files.find? other = some .directory →
      later.find? other = some .directory := by
    intro other directory
    have elsewhere : other ≠ goal := by
      rintro rfl
      exact moves.solid directory
    rw [moves.kept (moves.plain.ne_of_directory directory) elsewhere, directory]
  have links : ∀ other ∈ files.routeToParent target, ∀ text,
      files.find? other = some (.link text) → later.find? other = some (.link text) := by
    intro other member text link
    have elsewhere : other ≠ goal := by
      rintro rfl
      exact apart _ text moves.resolved link member
    rw [moves.kept (moves.plain.ne_of_link link) elsewhere, link]
  have arrives := before.of_kept directories links directory
  refine lookupNoFollow_eq_ok_iff.2 ⟨moves.accepted, goal, ?_, moves.here⟩
  rw [moves.startOf, split, inside]
  exact arrives.append (directories _ directory) (List.cons_ne_nil name [])
    fun _ => .last (directories _ directory) proper

theorem lookupNoFollow_of_isUnlinked (unlinked : files.IsUnlinked target) :
    later.lookupNoFollow target = .ok (.file bytes) :=
  moves.lookupNoFollow (unlinked.keepsWay moves.unended)

end Moves

/-- A file that is moved into a directory is found there, even where a link stood, if the directory
is not reached through that link. -/
theorem Moves.lookupNoFollow_under
    (moves : files.Moves draft (directory.under name) bytes place goal later)
    (written : directory.text ≠ "") (unslashed : Unslashed name)
    (apart : ∀ place, files.resolveTarget (directory.under name) = .ok place →
      place ∉ files.routeOf directory) :
    later.lookupNoFollow (directory.under name) = .ok (.file bytes) := by
  apply moves.lookupNoFollow
  intro other _ resolved _
  rw [routeToParent_under written unslashed]
  exact apart other resolved

/-! ## Text that is put in place -/

/-- Text that is put in place by way of a draft has been written and moved. -/
theorem exists_moves_of_replace {text : String} (bare : files.IsUnlinked draft)
    (replaced : (FileAct.replace target draft text files).1 = .ok ()) :
    ∃ place goal, files.Moves draft target text.toUTF8 place goal
      (FileAct.replace target draft text files).2 := by
  have ended := FileAct.replace_ends target draft text files
  generalize FileAct.replace target draft text files = left at ended replaced ⊢
  cases ended with
  | refused | discarded | broken => cases replaced
  | moved _ wrote moved => exact exists_moves bare wrote moved

/-- Text that is put in place by way of a draft is in a file there, if no link stood at the draft
and none in its place that the way there goes through. -/
theorem lookupNoFollow_of_replace {text : String} (bare : files.IsUnlinked draft)
    (apart : files.KeepsWay target)
    (replaced : (FileAct.replace target draft text files).1 = .ok ()) :
    (FileAct.replace target draft text files).2.lookupNoFollow target =
      .ok (.file text.toUTF8) := by
  obtain ⟨place, goal, moves⟩ := exists_moves_of_replace bare replaced
  exact moves.lookupNoFollow apart

end Steward.FileSystem
