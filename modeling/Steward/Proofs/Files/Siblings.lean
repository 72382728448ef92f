import Mathlib.Data.List.DropRight
import Steward.Proofs.Files.Changes
import Steward.Proofs.Files.Names

/-!
# Paths that differ in their last name

Two texts that go on with a name each after the same front, which is empty or
ends in a slash, lead through the same directories.  Changing the extension of
a path gives such a text.
-/

namespace Steward

namespace Path

/-- The path is a front, which is empty or ends in a slash, and a name. -/
structure EndsIn (path : Path) (front : List Char) (name : String) : Prop where
  text : path.text.toList = front ++ name.toList
  /-- Nothing of the name stands in the front. -/
  front : front = [] ∨ ∃ earlier, front = earlier ++ ['/']
  unslashed : Unslashed name

/-- The names in a front. -/
def namesIn (front : List Char) : List String :=
  (Text.pieces (· == '/') front).dropLast.map String.ofList

namespace EndsIn

variable {path other : Path} {front : List Char} {name last : String}

theorem namesOf (ends : path.EndsIn front name) :
    Steward.namesOf path.text = namesIn front ++ [name] := by
  rw [Steward.namesOf, ends.text]
  rcases ends.front with rfl | ⟨earlier, rfl⟩
  · rw [List.nil_append, Text.pieces_of_uncut ends.unslashed.uncut]
    simp [namesIn, Text.pieces]
  · rw [List.append_assoc, List.singleton_append, Text.pieces_append (by rfl),
      Text.pieces_of_uncut ends.unslashed.uncut]
    simp [namesIn, Text.pieces_append, Text.pieces]

/-- After the same front paths start in the same place. -/
theorem isAbsolute_eq (ends : path.EndsIn front name) (others : other.EndsIn front last) :
    path.isAbsolute = other.isAbsolute := by
  rw [isAbsolute, isAbsolute, ends.text, others.text]
  rcases ends.front with rfl | ⟨earlier, rfl⟩
  · have relative {name : String} (unslashed : Unslashed name) :
        name.toList.head? ≠ some '/' :=
      fun slash => unslashed (List.mem_of_head? slash)
    simp [relative ends.unslashed, relative others.unslashed]
  · cases earlier <;> rfl

theorem startOf_eq (files : FileSystem) (ends : path.EndsIn front name)
    (others : other.EndsIn front last) : files.startOf path = files.startOf other := by
  rw [FileSystem.startOf, FileSystem.startOf, ends.isAbsolute_eq others]

theorem endsInSlash (ends : path.EndsIn front name) (named : name ≠ "") :
    path.endsInSlash = false := by
  have letters : name.toList ≠ [] := fun blank => named (String.toList_eq_nil_iff.1 blank)
  obtain ⟨earlier, final, split⟩ := (List.eq_nil_or_concat name.toList).resolve_left letters
  have unslashed : final ≠ '/' := by
    rintro rfl
    exact ends.unslashed (by simp [split])
  rw [Path.endsInSlash, ends.text, split]
  simp [← List.append_assoc, unslashed]

theorem written (ends : path.EndsIn front name) (named : name ≠ "") : path.text ≠ "" := by
  intro blank
  have none := ends.text
  rw [blank, String.toList_empty] at none
  exact named (String.toList_eq_nil_iff.1 (List.append_eq_nil_iff.1 none.symm).2)

theorem namesBeforeSlashes (ends : path.EndsIn front name) (named : name ≠ "") :
    FileSystem.namesBeforeSlashes path = namesIn front ++ [name] := by
  rw [FileSystem.namesBeforeSlashes_eq (ends.written named) (ends.endsInSlash named), ends.namesOf]

theorem endsInName_eq (ends : path.EndsIn front name) (named : name ≠ "") :
    FileSystem.endsInName path = (name != "." && name != "..") := by
  rw [FileSystem.endsInName, ends.namesBeforeSlashes named]
  simp

end EndsIn

/-! ## Extensions -/

/-- Whatever comes after the same stretches stands after the same front. -/
theorem intercalate_concat (earlier : List (List Char)) (last : List Char) :
    List.intercalate ['/'] (earlier ++ [last]) = earlier.flatMap (· ++ ['/']) ++ last := by
  induction earlier with
  | nil => simp
  | cons first earlier inductionHypothesis =>
    rw [List.cons_append, List.intercalate_cons_of_ne_nil (by simp), inductionHypothesis]
    simp

/-- The stretches that are left when the silent ones at the end are gone end in one that says
something. -/
theorem spoken_eq_concat {names earlier : List (List Char)} {name : List Char}
    (said : spoken names = earlier ++ [name]) :
    isSilent name = false ∧ earlier ++ [name] <+: names := by
  have same : List.rdropWhile isSilent names = earlier ++ [name] := said
  constructor
  · have last := List.rdropWhile_last_not isSilent names (by simp [same])
    simpa [same] using last
  · exact same ▸ List.rdropWhile_prefix isSilent names

/-- The front of a path, given the stretches before its last name. -/
def frontOf (path : Path) (earlier : List (List Char)) : List Char :=
  (leading path.text.toList).1 ++ earlier.flatMap (· ++ ['/'])

theorem rebuild_concat (path : Path) (earlier : List (List Char)) (last : List Char) :
    (rebuild (leading path.text.toList).1 (earlier ++ [last])).text.toList =
      path.frontOf earlier ++ last := by
  simp [rebuild, frontOf, intercalate_concat]

theorem leading_cases (text : List Char) :
    (leading text).1 = [] ∨ (leading text).1 = ['/'] ∨
      (leading text).1 = ['.'] ∧
        ((leading text).2 = [] ∨ ∃ rest, (leading text).2 = '/' :: rest) := by
  unfold leading
  split <;> simp

/-- The front is empty or ends in a slash: a dot that begins a path is followed by one. -/
theorem frontOf_cases {path : Path} {earlier : List (List Char)} {name : List Char}
    (said : spoken path.stretches = earlier ++ [name]) :
    path.frontOf earlier = [] ∨ ∃ before, path.frontOf earlier = before ++ ['/'] := by
  obtain ⟨loud, before⟩ := spoken_eq_concat said
  rcases List.eq_nil_or_concat earlier with rfl | ⟨front, final, rfl⟩
  · rcases leading_cases path.text.toList with none | slash | ⟨-, none | ⟨rest, more⟩⟩
    · simp [frontOf, none]
    · exact .inr ⟨[], by simp [frontOf, slash]⟩
    · rw [stretches, none] at before
      simp [Text.pieces] at before
      simp [before, isSilent] at loud
    · rw [stretches, more] at before
      simp [Text.pieces] at before
      simp [before, isSilent] at loud
  · exact .inr ⟨(leading path.text.toList).1 ++ front.flatMap (· ++ ['/']) ++ final,
      by simp [frontOf]⟩

/-- A path that ends in its last name is the front and that name. -/
theorem toList_of_endsInLastName {path : Path} {earlier : List (List Char)} {name : List Char}
    (said : spoken path.stretches = earlier ++ [name]) (ended : path.endsInLastName = true) :
    path.text.toList = path.frontOf earlier ++ name := by
  have all : spoken path.stretches = path.stretches := by
    refine List.rdropWhile_eq_self_iff.2 fun some silent => ?_
    rw [endsInLastName, List.getLast?_eq_some_getLast some] at ended
    simp [silent] at ended
  calc path.text.toList
      = (leading path.text.toList).1 ++ (leading path.text.toList).2 := (leading_append _).symm
    _ = (leading path.text.toList).1 ++ List.intercalate ['/'] path.stretches := by
        rw [stretches, Text.intercalate_pieces]
    _ = path.frontOf earlier ++ name := by
        rw [← all, said, intercalate_concat, frontOf, List.append_assoc]

/-- A part of a name without a slash has none. -/
theorem mem_of_mem_stem {name : List Char} {c : Char} (member : c ∈ stem name) : c ∈ name := by
  unfold stem at member
  split at member
  · exact member
  · have dropped := List.mem_reverse.1 (List.dropLast_subset _ member)
    exact List.mem_reverse.1 ((List.dropWhile_suffix _).subset dropped)

theorem stretch_unslashed {path : Path} {name : List Char} (member : name ∈ path.stretches) :
    '/' ∉ name := by
  intro slash
  have uncut := Text.uncut_of_mem_pieces member '/' slash
  simp at uncut

/-- What a path with another extension is: a text that ends in a name with that extension, or in two
dots where the path ended in a name, or the path as it was. -/
inductive Renamed (extension : String) (path : Path) : Path → Prop
  | same : Renamed extension path path
  | named {renamed : Path} {front : List Char} {kept : String}
      (ends : renamed.EndsIn front (kept ++ "." ++ extension)) :
      Renamed extension path renamed
  | dots {renamed : Path} {front : List Char} {name : String} (ended : path.EndsIn front name)
      (spoken : ¬(name = "" ∨ name = ".")) (downward : name ≠ "..")
      (ends : renamed.EndsIn front "..") : Renamed extension path renamed

theorem renamed_withExtension (path : Path) (extension : String)
    (unslashed : Unslashed extension) : Renamed extension path (path.withExtension extension) := by
  unfold withExtension
  dsimp only
  split
  · rename_i name earlier said
    have said : spoken path.stretches = earlier.reverse ++ [name] := by
      rw [← List.reverse_reverse (spoken path.stretches), said, List.reverse_cons]
    obtain ⟨loud, before⟩ := spoken_eq_concat said
    have front := frontOf_cases said
    have clean : '/' ∉ name := stretch_unslashed (before.subset (by simp))
    split
    · exact .same
    · rename_i downward
      split
      · rename_i dotted
        obtain ⟨-, last⟩ := Bool.and_eq_true_iff.1 dotted
        have ended : path.EndsIn (path.frontOf earlier.reverse) (String.ofList name) :=
          ⟨by simp [toList_of_endsInLastName said last], front, by simpa [Unslashed] using clean⟩
        apply Renamed.dots ended
        · simpa [isSilent, ← String.toList_inj] using loud
        · simpa [← String.toList_inj] using downward
        · exact ⟨rebuild_concat path earlier.reverse _, front, by decide⟩
      · have kept : Unslashed (String.ofList (stem name)) := by
          intro slash
          exact clean (mem_of_mem_stem (by simpa using slash))
        have ends : (rebuild (leading path.text.toList).1
            (earlier.reverse ++ [stem name ++ '.' :: extension.toList])).EndsIn
            (path.frontOf earlier.reverse) (String.ofList (stem name) ++ "." ++ extension) :=
          ⟨by simp [rebuild_concat], front, (kept.append (by decide)).append unslashed⟩
        exact .named ends
  · exact .same

end Path

/-! ## Through the same directories -/

namespace FileSystem

variable {files : FileSystem} {path other : Path} {front : List Char} {name : String}

/-- A walk to a directory may go on from there. -/
theorem Leads.append {follow : Bool} {links : Nat} {start middle goal : Place}
    {names more : List String} (first : files.Leads true links start names middle)
    (directory : files.find? middle = some .directory) (further : more ≠ [])
    (second : ∀ links, files.Leads follow links middle more goal) :
    files.Leads follow links start (names ++ more) goal := by
  induction first with
  | arrived => exact second _
  | silent directory' silent _ inductionHypothesis =>
      exact .silent directory' silent (inductionHypothesis directory second)
  | up directory' _ inductionHypothesis =>
      exact .up directory' (inductionHypothesis directory second)
  | absent _ _ absent => simp [absent] at directory
  | unfollowed _ _ link _ => simp [link] at directory
  | jump directory' proper link _ told _ inductionHypothesis =>
      have onward := inductionHypothesis directory second
      rw [List.append_assoc] at onward
      exact .jump directory' proper link (.inl (by simp [further])) told onward
  | down directory' proper found solid _ inductionHypothesis =>
      exact .down directory' proper found solid (inductionHypothesis directory second)

/-- The directory that a path to something is in. -/
theorem exists_directory_of_resolve {place : Place} (ends : path.EndsIn front name)
    (spoken : ¬(name = "" ∨ name = ".")) (downward : name ≠ "..")
    (resolved : files.resolve path = .ok place) :
    ∃ parent, files.Leads true linkBudget (files.startOf path) (Path.namesIn front) parent ∧
      files.find? parent = some .directory := by
  obtain ⟨-, leads⟩ := resolve_eq_ok_iff.1 resolved
  rw [ends.namesOf] at leads
  rcases leads.unfollowed_or_link with leads | ⟨_, _, leads, -⟩
  · obtain ⟨parent, before, directory, -⟩ := leads.last_name spoken downward
    exact ⟨parent, before, directory⟩
  · obtain ⟨parent, before, directory, -⟩ := leads.last_name spoken downward
    exact ⟨parent, before, directory⟩

/-- Two dots in place of the name of a file that is there lead somewhere. -/
theorem resolveTarget_dots (ended : path.EndsIn front name) (spoken : ¬(name = "" ∨ name = "."))
    (downward : name ≠ "..") (ends : other.EndsIn front "..")
    (accepted : acceptable other = .ok ()) (present : files.isFile path = true) :
    ∃ place, files.resolveTarget other = .ok place := by
  cases resolved : files.resolve path with
  | error failure => simp [isFile, lookup, resolved, bind, Except.bind] at present
  | ok place =>
    obtain ⟨parent, before, directory⟩ :=
      exists_directory_of_resolve ended spoken downward resolved
    refine ⟨parent.dropLast, resolveTarget_eq_ok_iff.2 ⟨accepted, ?_⟩⟩
    rw [ends.namesBeforeSlashes (by decide), ends.startOf_eq files ended]
    exact before.append directory (by simp) fun _ => .up directory .arrived

/-- Two dots in place of the name of a file that is there cannot be cleared. -/
theorem clear_dots_ne_ok (ended : path.EndsIn front name) (spoken : ¬(name = "" ∨ name = "."))
    (downward : name ≠ "..") (ends : other.EndsIn front "..")
    (present : files.isFile path = true) : (FileAct.clear other files).1 ≠ .ok () := by
  have unnamed : endsInName other = false := ends.endsInName_eq (by decide)
  have written := ends.written (by decide)
  rw [FileAct.clear_apply]
  cases accepted : acceptable other with
  | error failure =>
      -- Only the empty text is refused as if nothing were there.
      have refused : files.remove other = .error failure := by
        rw [remove, resolveTarget, accepted]
        rfl
      have found : failure ≠ .notFound := by
        rintro rfl
        unfold acceptable at accepted
        split at accepted
        · cases accepted
        · rw [if_neg (by simpa using written)] at accepted
          split at accepted <;> cases accepted
      simp [refused, found]
  | ok _ =>
      obtain ⟨place, resolved⟩ := resolveTarget_dots ended spoken downward ends accepted present
      have refused : files.remove other = .error .isDirectory := by
        rw [remove, resolved]
        simp [unnamed, bind, Except.bind]
      simp [refused, IoError.isDirectory, IoError.notFound]

/-- Discarding a path that ends in a name of its own leaves nothing there, unless a directory stands
there. -/
theorem isVacant_discarded (named : endsInName path = true) (unended : path.endsInSlash = false)
    (solid : files.lookupNoFollow path ≠ .ok .directory) :
    (files.discarded path).IsVacant path := by
  rw [discarded]
  cases removed : files.remove path with
  | ok later => exact isVacant_of_remove removed
  | error failure =>
      intro entry found
      obtain ⟨accepted, place, leads, stands⟩ := lookupNoFollow_eq_ok_iff.1 found
      obtain ⟨-, written, -⟩ := acceptable_eq_ok_iff.1 accepted
      rw [← namesBeforeSlashes_eq written unended] at leads
      have removable : files.remove path = .ok (files.without place) := by
        refine remove_eq_ok_iff.2 ⟨place, entry, resolveTarget_eq_ok_iff.2 ⟨accepted, leads⟩,
          stands, ?_, named, unended, rfl⟩
        rintro rfl
        exact solid found
      simp [removable] at removed

end FileSystem

end Steward
