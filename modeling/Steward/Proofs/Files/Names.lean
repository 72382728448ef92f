import Steward.Proofs.Files.Changes
import Steward.Proofs.Text.Lines

/-!
# Names directly inside a directory

A path that follows a directory after one slash, and has no slash of its own,
names an object directly inside the directory: the place it leads to is the
place of the directory and one more name.
-/

namespace Steward

/-- A path that follows a directory after one slash. -/
def Path.under (directory : Path) (name : String) : Path :=
  ⟨directory.text ++ "/" ++ name⟩

/-- A name without a slash of its own. -/
def Unslashed (name : String) : Prop :=
  '/' ∉ name.toList

instance (name : String) : Decidable (Unslashed name) :=
  inferInstanceAs (Decidable ('/' ∉ name.toList))

theorem Unslashed.uncut {name : String} (unslashed : Unslashed name) :
    ∀ c ∈ name.toList, (c == '/') = false := by
  intro c member
  apply beq_eq_false_iff_ne.2
  rintro rfl
  exact unslashed member

theorem Unslashed.append {front back : String} (unslashed : Unslashed front)
    (more : Unslashed back) : Unslashed (front ++ back) := by
  intro slash
  rw [String.toList_append, List.mem_append] at slash
  rcases slash with slash | slash
  · exact unslashed slash
  · exact more slash

theorem Path.toList_under (directory : Path) (name : String) :
    (directory.under name).text.toList = directory.text.toList ++ '/' :: name.toList := by
  simp [Path.under]

theorem Path.extend_under (directory : Path) (name ending : String) :
    (directory.under name).extend ending = directory.under (name ++ ending) := by
  simp [under, extend, String.append_assoc]

theorem namesOf_under {directory : Path} {name : String} (unslashed : Unslashed name) :
    namesOf (directory.under name).text = namesOf directory.text ++ [name] := by
  rw [namesOf, Path.toList_under, Text.pieces_append (by rfl), Text.pieces_of_uncut unslashed.uncut]
  simp [namesOf]

/-! ## Parents -/

namespace Path

theorem leading_append (text : List Char) : (leading text).1 ++ (leading text).2 = text := by
  unfold leading
  split <;> rfl

theorem leading_of_append {text : List Char} (written : text ≠ []) (more : List Char) :
    leading (text ++ '/' :: more) = ((leading text).1, (leading text).2 ++ '/' :: more) := by
  match text with
  | [c] =>
      unfold leading
      split <;> split <;> simp_all
  | c :: d :: rest =>
      unfold leading
      split <;> split <;> simp_all

/-- The last stretch of a path says something. -/
def EndsSpoken (path : Path) : Prop :=
  spoken path.stretches = path.stretches

variable {directory : Path} {name : String}

theorem toList_ne_nil (written : directory.text ≠ "") : directory.text.toList ≠ [] :=
  fun blank => written (String.toList_eq_nil_iff.1 blank)

theorem stretches_under (written : directory.text ≠ "") (unslashed : Unslashed name) :
    (directory.under name).stretches = directory.stretches ++ [name.toList] := by
  rw [stretches, toList_under, leading_of_append (toList_ne_nil written),
    Text.pieces_append (by rfl), Text.pieces_of_uncut unslashed.uncut]
  rfl

theorem spoken_concat {names : List (List Char)} {name : List Char}
    (said : isSilent name = false) : spoken (names ++ [name]) = names ++ [name] := by
  simp [spoken, said]

theorem rebuild_stretches (path : Path) :
    rebuild (leading path.text.toList).1 path.stretches = path := by
  rw [rebuild, stretches, Text.intercalate_pieces, leading_append, String.ofList_toList]

/-- The parent of a path under a directory is the directory, as it is written. -/
theorem parent?_under (written : directory.text ≠ "") (ends : directory.EndsSpoken)
    (unslashed : Unslashed name) (said : isSilent name.toList = false) :
    (directory.under name).parent? = some directory := by
  rw [parent?, stretches_under written unslashed, toList_under,
    leading_of_append (toList_ne_nil written), spoken_concat said]
  simp only [List.reverse_append, List.reverse_cons, List.reverse_nil, List.nil_append,
    List.singleton_append, List.reverse_reverse]
  rw [ends, rebuild_stretches]

/-- A name in a directory keeps what stands before its last dot. -/
theorem withExtension_under (written : directory.text ≠ "") (unslashed : Unslashed name)
    (said : isSilent name.toList = false) (downward : name.toList ≠ ['.', '.'])
    (kept : stem name.toList ≠ ['.']) {extension last : String} (lastUnslashed : Unslashed last)
    (same : last.toList = stem name.toList ++ '.' :: extension.toList) :
    (directory.under name).withExtension extension = directory.under last := by
  have rebuilt := rebuild_stretches (directory.under last)
  rw [stretches_under written lastUnslashed, toList_under,
    leading_of_append (toList_ne_nil written)] at rebuilt
  rw [withExtension, stretches_under written unslashed, toList_under,
    leading_of_append (toList_ne_nil written), spoken_concat said]
  simp [downward, kept, ← same, rebuilt]

end Path

/-! ## Joined names -/

namespace Path

variable {base : Path} {name : String}

theorem join_eq_under (written : base.text ≠ "") (unended : base.endsInSlash = false)
    (relative : (Path.mk name).isAbsolute = false) : base.join name = base.under name := by
  simp [join, under, relative, written, unended]

theorem isAbsolute_of_unslashed (unslashed : Unslashed name) :
    (Path.mk name).isAbsolute = false := by
  rw [isAbsolute]
  cases letters : name.toList with
  | nil => rfl
  | cons c rest =>
    have first := unslashed.uncut c (by rw [letters]; exact List.mem_cons_self)
    simpa using first

/-- A name joined to a base ends the path. -/
theorem exists_text_join (base : Path) (unslashed : Unslashed name) :
    ∃ front, (base.join name).text = front ++ name := by
  rw [join, isAbsolute_of_unslashed unslashed]
  by_cases bare : (base.text.isEmpty || base.endsInSlash) = true
  · exact ⟨base.text, by rw [if_neg Bool.false_ne_true, if_pos bare]⟩
  · exact ⟨base.text ++ "/", by rw [if_neg Bool.false_ne_true, if_neg bare]⟩

theorem text_join_ne (base : Path) (unslashed : Unslashed name) (named : name ≠ "") :
    (base.join name).text ≠ "" := by
  obtain ⟨front, same⟩ := exists_text_join base unslashed
  rw [same]
  simp [named]

theorem endsInSlash_join (base : Path) (unslashed : Unslashed name) (named : name ≠ "") :
    (base.join name).endsInSlash = false := by
  obtain ⟨front, same⟩ := exists_text_join base unslashed
  have letters : name.toList ≠ [] := fun blank => named (String.toList_eq_nil_iff.1 blank)
  have some : name.toList.getLast?.isSome := by simpa using letters
  rw [endsInSlash, same, String.toList_append, List.getLast?_append, Option.or_of_isSome some]
  exact decide_eq_false fun slash => unslashed (List.mem_of_getLast? slash)

theorem leading_of_unslashed (unslashed : Unslashed name) (said : isSilent name.toList = false) :
    leading name.toList = ([], name.toList) := by
  unfold leading
  split
  · rename_i slash
    exact absurd (by simp [slash]) unslashed
  · rename_i dot
    simp [dot, isSilent] at said
  · rename_i slash
    exact absurd (by simp [slash]) unslashed
  · rfl

/-- A path that is a front and a name ends in the name, if the front ends in a slash or is empty. -/
theorem endsSpoken_of_front {path : Path} {front : List Char}
    (text : path.text.toList = front ++ name.toList)
    (ends : front = [] ∨ ∃ earlier, front = earlier ++ ['/']) (unslashed : Unslashed name)
    (said : isSilent name.toList = false) : path.EndsSpoken := by
  have single : Text.pieces (· == '/') name.toList = [name.toList] :=
    Text.pieces_of_uncut unslashed.uncut
  have split : ∃ earlier, path.stretches = earlier ++ [name.toList] := by
    rw [stretches, text]
    rcases ends with rfl | ⟨earlier, rfl⟩
    · rw [List.nil_append, leading_of_unslashed unslashed said, single]
      exact ⟨[], rfl⟩
    · rw [List.append_assoc, List.singleton_append]
      by_cases none : earlier = []
      · subst none
        exact ⟨[], single⟩
      · rw [leading_of_append none, Text.pieces_append (by rfl), single]
        exact ⟨_, rfl⟩
  rcases split with ⟨earlier, same⟩
  rw [EndsSpoken, same, spoken_concat said]

/-- A path that a name was joined to ends in it. -/
theorem endsSpoken_join (base : Path) (unslashed : Unslashed name)
    (said : isSilent name.toList = false) : (base.join name).EndsSpoken := by
  rw [join, isAbsolute_of_unslashed unslashed, if_neg Bool.false_ne_true]
  by_cases bare : (base.text.isEmpty || base.endsInSlash) = true
  · rw [if_pos bare]
    have front : base.text.toList = [] ∨ ∃ earlier, base.text.toList = earlier ++ ['/'] := by
      rcases Bool.or_eq_true_iff.1 bare with blank | slash
      · exact .inl (by simpa using blank)
      · exact .inr (List.getLast?_eq_some_iff.1 (of_decide_eq_true slash))
    exact endsSpoken_of_front (String.toList_append ..) front unslashed said
  · rw [if_neg bare]
    have front : (base.text ++ "/").toList = base.text.toList ++ ['/'] := by simp
    exact endsSpoken_of_front (String.toList_append ..) (.inr ⟨_, front⟩) unslashed said

/-- A directory that names can be joined to. -/
structure IsFolder (directory : Path) : Prop where
  /-- Its path is not empty. -/
  written : directory.text ≠ ""
  /-- Its path ends in a name. -/
  ends : directory.EndsSpoken
  /-- Names joined to it are under it. -/
  under {name : String} (unslashed : Unslashed name) : directory.join name = directory.under name

theorem named_of_said (said : isSilent name.toList = false) : name ≠ "" := by
  rintro rfl
  simp [isSilent] at said

theorem isFolder_join (base : Path) (unslashed : Unslashed name)
    (said : isSilent name.toList = false) : (base.join name).IsFolder where
  written := text_join_ne base unslashed (named_of_said said)
  ends := endsSpoken_join base unslashed said
  under relative :=
    join_eq_under (text_join_ne base unslashed (named_of_said said))
      (endsInSlash_join base unslashed (named_of_said said)) (isAbsolute_of_unslashed relative)

end Path

namespace FileSystem

variable {files : FileSystem} {directory : Path} {name : String} {place : Place}

/-- A path that does not end in a slash ends in one of its names. -/
theorem namesBeforeSlashes_eq {path : Path} (written : path.text ≠ "")
    (unended : path.endsInSlash = false) :
    namesBeforeSlashes path = namesOf path.text := by
  rw [namesBeforeSlashes, namesOf]
  rcases List.eq_nil_or_concat (Text.pieces (· == '/') path.text.toList) with
    none | ⟨front, final, split⟩
  · exact absurd none (Text.pieces_ne_nil _ _)
  · have spoken : final ≠ [] := by
      rintro rfl
      have blank : (Text.pieces (· == '/') path.text.toList).getLast? = some [] := by
        simp [split]
      rcases Text.getLast?_pieces blank with none | ⟨c, last, cuts⟩
      · exact written (String.toList_eq_nil_iff.1 none)
      · obtain rfl := eq_of_beq cuts
        rw [Path.endsInSlash, last] at unended
        simp at unended
    have kept : (String.ofList final).isEmpty = false := by
      simpa using spoken
    rw [split]
    simp [kept]

theorem namesBeforeSlashes_under (unslashed : Unslashed name) (named : name ≠ "") :
    namesBeforeSlashes (directory.under name) = namesOf directory.text ++ [name] := by
  rw [namesBeforeSlashes, namesOf_under unslashed]
  simp [named]

/-- A directory whose path can follow the start of a longer one. -/
theorem startOf_under (written : directory.text ≠ "") :
    files.startOf (directory.under name) = files.startOf directory := by
  have front : (directory.under name).isAbsolute = directory.isAbsolute := by
    rw [Path.isAbsolute, Path.isAbsolute]
    cases letters : directory.text.toList with
    | nil => exact absurd (String.toList_eq_nil_iff.1 letters) written
    | cons c rest => simp [Path.under, letters]
  rw [startOf, startOf, front]

theorem acceptable_eq_ok_iff {path : Path} :
    acceptable path = .ok () ↔
      '\x00' ∉ path.text.toList ∧ path.text ≠ "" ∧ path.text.utf8ByteSize < pathLimit := by
  unfold acceptable
  by_cases null : path.text.toList.contains '\x00' = true
  · rw [if_pos null]
    simp_all
  · rw [if_neg null]
    by_cases blank : path.text.isEmpty = true
    · rw [if_pos blank]
      simp_all
    · rw [if_neg blank]
      by_cases long : pathLimit ≤ path.text.utf8ByteSize
      · rw [if_pos long]
        simp_all
      · rw [if_neg long]
        simp_all

theorem acceptable_of_under (written : directory.text ≠ "")
    (accepted : acceptable (directory.under name) = .ok ()) : acceptable directory = .ok () := by
  obtain ⟨clean, -, short⟩ := acceptable_eq_ok_iff.1 accepted
  refine acceptable_eq_ok_iff.2 ⟨fun null => clean ?_, written, ?_⟩
  · simp [Path.under, null]
  · have longer : directory.text.utf8ByteSize ≤ (directory.under name).text.utf8ByteSize := by
      simp only [Path.under, String.utf8ByteSize_append]
      omega
    omega

/-- Where the last name of a walk leads from the directory that the names before it lead to. -/
inductive LastStep (parent : Place) (name : String) : Place → Prop
  | silent (silent : name = "" ∨ name = ".") : LastStep parent name parent
  | up (upward : name = "..") : LastStep parent name parent.dropLast
  | proper (proper : IsProper name) : LastStep parent name (parent ++ [name])

/-- A walk is a walk to a directory and a last step from there. -/
theorem Leads.last_step {links : Nat} {start goal : Place} {names : List String}
    (leads : files.Leads false links start (names ++ [name]) goal) :
    ∃ parent, files.Leads true links start names parent ∧
      files.find? parent = some .directory ∧ LastStep parent name goal := by
  generalize whole : names ++ [name] = all at leads
  induction leads generalizing names with
  | arrived => simp at whole
  | silent directory silent onward inductionHypothesis =>
      cases names with
      | nil =>
        cases whole
        cases onward
        exact ⟨_, .arrived, directory, .silent silent⟩
      | cons first names =>
        cases whole
        obtain ⟨parent, leads, rest⟩ := inductionHypothesis rfl
        exact ⟨parent, .silent directory silent leads, rest⟩
  | up directory onward inductionHypothesis =>
      cases names with
      | nil =>
        cases whole
        cases onward
        exact ⟨_, .arrived, directory, .up rfl⟩
      | cons first names =>
        cases whole
        obtain ⟨parent, leads, rest⟩ := inductionHypothesis rfl
        exact ⟨parent, .up directory leads, rest⟩
  | absent directory named _ =>
      cases names with
      | nil =>
        cases whole
        exact ⟨_, .arrived, directory, .proper named⟩
      | cons first names => simp at whole
  | unfollowed directory named _ _ =>
      cases names with
      | nil =>
        cases whole
        exact ⟨_, .arrived, directory, .proper named⟩
      | cons first names => simp at whole
  | jump directory named link followed told _ inductionHypothesis =>
      cases names with
      | nil =>
        cases whole
        simp at followed
      | cons first names =>
        cases whole
        obtain ⟨parent, leads, rest⟩ := inductionHypothesis (List.append_assoc ..)
        exact ⟨parent, .jump directory named link (.inr rfl) told leads, rest⟩
  | down directory named found solid onward inductionHypothesis =>
      cases names with
      | nil =>
        cases whole
        cases onward
        exact ⟨_, .arrived, directory, .proper named⟩
      | cons first names =>
        cases whole
        obtain ⟨parent, leads, rest⟩ := inductionHypothesis rfl
        exact ⟨parent, .down directory named found solid leads, rest⟩

/-- A walk along names that ends in one of an object leads directly inside the place that the names
before it lead to. -/
theorem Leads.last_name {links : Nat} {start goal : Place} {names : List String}
    (spoken : ¬(name = "" ∨ name = ".")) (downward : name ≠ "..")
    (leads : files.Leads false links start (names ++ [name]) goal) :
    ∃ parent, files.Leads true links start names parent ∧
      files.find? parent = some .directory ∧ goal = parent ++ [name] := by
  obtain ⟨parent, before, directory, last⟩ := leads.last_step
  cases last with
  | silent silent => exact absurd silent spoken
  | up upward => exact absurd upward downward
  | proper => exact ⟨parent, before, directory, rfl⟩

/-- A place directly inside the directory that a path leads to. -/
def IsInside (files : FileSystem) (directory : Path) (place : Place) : Prop :=
  ∃ parent name, files.resolve directory = .ok parent ∧
    files.find? parent = some .directory ∧ place = parent ++ [name]

section Under

variable (written : directory.text ≠ "") (unslashed : Unslashed name)
  (spoken : ¬(name = "" ∨ name = ".")) (downward : name ≠ "..")
include written unslashed spoken downward

/-- What is made, moved or removed under a name in a directory is there under that name. -/
theorem exists_parent_of_resolveTarget
    (resolved : files.resolveTarget (directory.under name) = .ok place) :
    ∃ parent, files.resolve directory = .ok parent ∧ files.find? parent = some .directory ∧
      place = parent ++ [name] := by
  obtain ⟨accepted, leads⟩ := resolveTarget_eq_ok_iff.1 resolved
  have named : name ≠ "" := fun blank => spoken (.inl blank)
  rw [namesBeforeSlashes_under unslashed named, startOf_under written] at leads
  obtain ⟨parent, before, stands, under⟩ := leads.last_name spoken downward
  exact ⟨parent, resolve_eq_ok_iff.2 ⟨acceptable_of_under written accepted, before⟩, stands, under⟩

theorem getLast?_of_resolveTarget
    (resolved : files.resolveTarget (directory.under name) = .ok place) :
    place.getLast? = some name := by
  obtain ⟨parent, -, -, rfl⟩ :=
    exists_parent_of_resolveTarget written unslashed spoken downward resolved
  exact List.getLast?_concat

/-- What is made, moved or removed under a name in a directory is directly inside it. -/
theorem isInside_of_resolveTarget
    (resolved : files.resolveTarget (directory.under name) = .ok place) :
    files.IsInside directory place := by
  obtain ⟨parent, reached, stands, same⟩ :=
    exists_parent_of_resolveTarget written unslashed spoken downward resolved
  exact ⟨parent, name, reached, stands, same⟩

/-- What is written under a name in a directory is directly inside it, unless a link stands
there. -/
theorem isInside_or_link_of_resolve
    (resolved : files.resolve (directory.under name) = .ok place) :
    files.IsInside directory place ∨
      ∃ target, files.lookupNoFollow (directory.under name) = .ok (.link target) := by
  obtain ⟨accepted, leads⟩ := resolve_eq_ok_iff.1 resolved
  rcases leads.unfollowed_or_link with leads | ⟨nearer, target, leads, link⟩
  · have named : name ≠ "" := fun blank => spoken (.inl blank)
    rw [namesOf_under unslashed, ← namesBeforeSlashes_under unslashed named] at leads
    exact .inl (isInside_of_resolveTarget written unslashed spoken downward
      (resolveTarget_eq_ok_iff.2 ⟨accepted, leads⟩))
  · exact .inr ⟨target, lookupNoFollow_eq_ok_iff.2 ⟨accepted, nearer, leads, link⟩⟩

end Under

end FileSystem

end Steward
