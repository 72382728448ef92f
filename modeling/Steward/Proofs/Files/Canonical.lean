import Steward.Proofs.Files.Making
import Steward.Proofs.Files.Siblings

/-!
# Canonical paths

A walk that follows every link ends at a place that is reached through
directories alone, by names that are looked up as they stand.  The path that
names such a place from the root leads back to it, whatever directories are
made meanwhile, so a canonical path is its own canonical path for good.
-/

namespace Steward

namespace Path

variable {path parent : Path}

theorem leading_of_isAbsolute (isAbsolute : path.isAbsolute = true) :
    (leading path.text.toList).1 = ['/'] := by
  rw [Path.isAbsolute] at isAbsolute
  cases letters : path.text.toList with
  | nil => simp [letters] at isAbsolute
  | cons c rest =>
    obtain rfl : c = '/' := by simpa [letters] using isAbsolute
    rfl

/-- What an absolute path is in is absolute. -/
theorem isAbsolute_of_parent? (up : path.parent? = some parent)
    (isAbsolute : path.isAbsolute = true) : parent.isAbsolute = true := by
  simp only [parent?, leading_of_isAbsolute isAbsolute] at up
  split at up
  · cases up
    simp [rebuild, Path.isAbsolute]
  · cases up

end Path

namespace FileSystem

variable {files later : FileSystem} {path resolved : Path} {place goal parent : Place}
  {name : String} {links : Nat} {names : List String} {made : Path → Prop}

/-! ## Places without links on the way -/

/-- A place that is reached through directories only, and where no link stands. -/
inductive IsReal (files : FileSystem) : Place → Prop
  | root : IsReal files []
  | child {parent : Place} {name : String} (real : IsReal files parent)
      (directory : files.find? parent = some .directory) (proper : IsProper name)
      (unslashed : Unslashed name)
      (solid : ∀ target, files.find? (parent ++ [name]) ≠ some (.link target)) :
      IsReal files (parent ++ [name])

namespace IsReal

/-- Going up leads to the place before, and from the root nowhere else. -/
theorem dropLast (real : files.IsReal place) : files.IsReal place.dropLast := by
  cases real with
  | root => exact .root
  | child real => rwa [List.dropLast_concat]

theorem unslashed (real : files.IsReal place) : ∀ name ∈ place, Unslashed name := by
  induction real with
  | root => exact List.forall_mem_nil _
  | child _ _ _ unslashed _ inductionHypothesis =>
    intro other member
    rcases List.mem_append.1 member with earlier | last
    · exact inductionHypothesis other earlier
    · rwa [List.mem_singleton.1 last]

end IsReal

theorem unslashed_of_mem_namesOf {text : String} (member : name ∈ namesOf text) :
    Unslashed name := by
  obtain ⟨letters, mem, rfl⟩ := List.mem_map.1 member
  intro slash
  rw [String.toList_ofList] at slash
  simpa using Text.uncut_of_mem_pieces mem '/' slash

/-- A walk that follows every link leads from places without links on the way to such places. -/
theorem Leads.isReal (leads : files.Leads true links place names goal)
    (real : files.IsReal place) (unslashed : ∀ name ∈ names, Unslashed name) :
    files.IsReal goal := by
  induction leads with
  | arrived => exact real
  | silent _ _ _ inductionHypothesis =>
    exact inductionHypothesis real (List.forall_mem_cons.1 unslashed).2
  | up _ _ inductionHypothesis =>
    exact inductionHypothesis real.dropLast (List.forall_mem_cons.1 unslashed).2
  | absent directory proper absent =>
    exact .child real directory proper (unslashed _ List.mem_cons_self) (by simp [absent])
  | unfollowed _ _ _ unfollowed => cases unfollowed
  -- The names in a link are looked up from a place without links on the way as well.
  | @jump _ _ _ _ target _ _ _ _ _ _ _ inductionHypothesis =>
    refine inductionHypothesis ?_ fun other member => ?_
    · split
      · exact .root
      · exact real
    · rcases List.mem_append.1 member with told | later
      · exact unslashed_of_mem_namesOf told
      · exact unslashed other (List.mem_cons_of_mem _ later)
  | down directory proper found solid _ inductionHypothesis =>
    refine inductionHypothesis
      (.child real directory proper (unslashed _ List.mem_cons_self) fun target link => ?_)
      (List.forall_mem_cons.1 unslashed).2
    exact solid target (Option.some.inj (found.symm.trans link))

theorem isReal_of_resolve (isAbsolute : path.isAbsolute = true)
    (resolved : files.resolve path = .ok place) : files.IsReal place := by
  have leads := (resolve_eq_ok_iff.1 resolved).2
  rw [startOf, if_pos isAbsolute] at leads
  exact leads.isReal .root fun _ => unslashed_of_mem_namesOf

/-- A place without links on the way is led to by its own names. -/
theorem IsReal.leads (real : files.IsReal place) (links : Nat) :
    files.Leads true links [] place place := by
  induction real generalizing links with
  | root => exact .arrived
  | @child parent name _ directory proper _ solid inductionHypothesis =>
    refine (inductionHypothesis links).append directory (List.cons_ne_nil _ _) fun links => ?_
    exact Leads.followed (.last directory proper) solid

/-! ## The path that names a place -/

theorem isAbsolute_pathOf (place : Place) : (pathOf place).isAbsolute = true := by
  simp [pathOf, Path.isAbsolute]

theorem pathOf_singleton (name : String) : pathOf [name] = (Path.mk "").under name := by
  simp [pathOf, Path.under]

theorem pathOf_concat (below : parent ≠ []) (name : String) :
    pathOf (parent ++ [name]) = (pathOf parent).under name := by
  rw [pathOf, pathOf, Path.under,
    String.intercalate_append_of_ne_nil below (List.cons_ne_nil _ _)]
  simp [String.append_assoc]

/-- A name ends the path that names the place, after a slash. -/
theorem toList_pathOf_concat (parent : Place) (name : String) :
    ∃ earlier, (pathOf (parent ++ [name])).text.toList = earlier ++ '/' :: name.toList := by
  by_cases below : parent = []
  · subst below
    exact ⟨[], by rw [List.nil_append, pathOf_singleton, Path.toList_under]; rfl⟩
  · exact ⟨_, by rw [pathOf_concat below, Path.toList_under]⟩

theorem IsReal.namesOf_pathOf (real : files.IsReal place) (below : place ≠ []) :
    namesOf (pathOf place).text = "" :: place := by
  induction real with
  | root => exact absurd rfl below
  | @child parent name _ _ _ unslashed _ inductionHypothesis =>
    by_cases first : parent = []
    · subst first
      rw [List.nil_append, pathOf_singleton, namesOf_under unslashed]
      rfl
    · rw [pathOf_concat first, namesOf_under unslashed, inductionHypothesis first, List.cons_append]

/-- The path that names a place without links on the way leads there. -/
theorem IsReal.resolve_pathOf (real : files.IsReal place)
    (accepted : acceptable (pathOf place) = .ok ()) : files.resolve (pathOf place) = .ok place := by
  refine resolve_eq_ok_iff.2 ⟨accepted, ?_⟩
  rw [startOf, if_pos (isAbsolute_pathOf place)]
  have directory := find?_root files
  by_cases below : place = []
  · subst below
    exact .silent directory (.inl rfl) (.silent directory (.inl rfl) .arrived)
  · rw [real.namesOf_pathOf below]
    exact .silent directory (.inl rfl) (real.leads _)

/-! ## Parents of canonical paths -/

theorem IsProper.said (proper : IsProper name) : Path.isSilent name.toList = false := by
  obtain ⟨written, dotless⟩ := not_or.1 proper.spoken
  rw [Path.isSilent, Bool.or_eq_false_iff]
  constructor
  · simpa using written
  · exact beq_eq_false_iff_ne.2 fun dot => dotless (String.toList_inj.1 dot)

theorem endsSpoken_pathOf (proper : IsProper name) (unslashed : Unslashed name) :
    (pathOf (parent ++ [name])).EndsSpoken := by
  obtain ⟨earlier, text⟩ := toList_pathOf_concat parent name
  have front : (pathOf (parent ++ [name])).text.toList = (earlier ++ ['/']) ++ name.toList := by
    rw [text, List.append_assoc, List.singleton_append]
  exact Path.endsSpoken_of_front front (.inr ⟨_, rfl⟩) unslashed proper.said

/-- The parent of the path that names a place names the place above. -/
theorem IsReal.parent?_pathOf_concat (real : files.IsReal parent) (proper : IsProper name)
    (unslashed : Unslashed name) :
    (pathOf (parent ++ [name])).parent? = some (pathOf parent) := by
  cases real with
  | root =>
    have single : Text.pieces (· == '/') name.toList = [name.toList] :=
      Text.pieces_of_uncut unslashed.uncut
    have text : (pathOf [name]).text.toList = '/' :: name.toList := by
      rw [pathOf_singleton, Path.toList_under]
      rfl
    have last : Path.spoken [name.toList] = [name.toList] := by
      simp [Path.spoken, proper.said]
    simp only [List.nil_append, Path.parent?, Path.stretches, text, Path.leading, single, last]
    rfl
  | @child above between _ _ properAbove unslashedAbove _ =>
    rw [pathOf_concat (by simp)]
    refine Path.parent?_under ?_ (endsSpoken_pathOf properAbove unslashedAbove) unslashed
      proper.said
    simp [pathOf]

/-! ## Paths that are their own -/

/-- A path that leads to something has no other name, and no links and dots in it. -/
def IsOwnName (files : FileSystem) (path : Path) : Prop :=
  files.doesExist path = true → files.canonical path = .ok path

/-- The path that names a place without links on the way keeps its name when directories are
made. -/
theorem IsReal.isOwnName {entry : Entry} (real : files.IsReal place)
    (found : files.find? place = some entry) (grown : Grown made files later) :
    later.IsOwnName (pathOf place) := by
  intro present
  obtain ⟨_, _, resolved, -⟩ := doesExist_eq_true_iff.1 present
  have reached := real.resolve_pathOf (resolve_eq_ok_iff.1 resolved).1
  exact grown.canonical (canonical_eq_ok_iff.2 ⟨place, entry, reached, found, rfl⟩)

/-- A canonical path is its own, also when directories have been made. -/
theorem isOwnName_of_canonical (isAbsolute : path.isAbsolute = true)
    (named : files.canonical path = .ok resolved) (grown : Grown made files later) :
    later.IsOwnName resolved := by
  obtain ⟨place, entry, reached, found, rfl⟩ := canonical_eq_ok_iff.1 named
  exact (isReal_of_resolve isAbsolute reached).isOwnName found grown

/-- So is the directory that it is in. -/
theorem isOwnName_of_canonical_parent {above : Path} (isAbsolute : path.isAbsolute = true)
    (named : files.canonical path = .ok resolved) (up : resolved.parent? = some above)
    (grown : Grown made files later) : later.IsOwnName above := by
  obtain ⟨place, entry, reached, -, rfl⟩ := canonical_eq_ok_iff.1 named
  cases isReal_of_resolve isAbsolute reached with
  | root => cases up
  | child real directory proper unslashed _ =>
    rw [real.parent?_pathOf_concat proper unslashed] at up
    cases up
    exact real.isOwnName directory grown

theorem isAbsolute_of_canonical (named : files.canonical path = .ok resolved) :
    resolved.isAbsolute = true := by
  obtain ⟨place, _, -, -, rfl⟩ := canonical_eq_ok_iff.1 named
  exact isAbsolute_pathOf place

/-- A path that leads to nothing is its own for want of another. -/
theorem isOwnName_of_missing (missing : files.canonical path = .error .notFound) :
    files.IsOwnName path := by
  intro present
  obtain ⟨place, entry, reached, found⟩ := doesExist_eq_true_iff.1 present
  rw [canonical_eq_ok_iff.2 ⟨place, entry, reached, found, rfl⟩] at missing
  cases missing

end FileSystem

end Steward
