import Steward.Proofs.Files.Names
import Steward.Proofs.Session.Gaps

/-!
# Making directories

A directory is made only where nothing stands, and yet it can bring something
to a path: a path may go through a missing directory and out of it again by two
dots.  A walk that takes what is missing for a directory heads for the same
place before and after directories are made, and whatever they bring to a path
stands there.
-/

namespace Steward

open Relation (ReflTransGen)

variable {ε : Type}

/-- The paths that `target` is below, itself included. -/
inductive Path.IsAbove (target : Path) : Path → Prop
  | self : IsAbove target target
  | parent {path above : Path} (up : path.parent? = some above) (lower : IsAbove target path) :
      IsAbove target above

theorem Path.IsAbove.trans {target path above : Path} (lower : target.IsAbove path)
    (upper : path.IsAbove above) : target.IsAbove above := by
  induction upper with
  | self => exact lower
  | parent up _ inductionHypothesis => exact .parent up inductionHypothesis

/-- Paths with those above them are all that a path among them is below. -/
theorem Path.IsAbove.mem {target path : Path} {paths : List Path} (lower : target.IsAbove path)
    (member : target ∈ paths)
    (closed : ∀ path ∈ paths, ∀ above ∈ path.parent?, above ∈ paths) : path ∈ paths := by
  induction lower with
  | self => exact member
  | parent up _ inductionHypothesis => exact closed _ inductionHypothesis _ up

/-- A path from the root on that does not turn back. -/
structure Path.IsStraight (path : Path) : Prop where
  isAbsolute : path.isAbsolute = true
  straight : ".." ∉ namesOf path.text

instance (path : Path) : Decidable path.IsStraight :=
  decidable_of_iff (path.isAbsolute = true ∧ ".." ∉ namesOf path.text)
    ⟨fun ⟨isAbsolute, straight⟩ => ⟨isAbsolute, straight⟩,
      fun ⟨isAbsolute, straight⟩ => ⟨isAbsolute, straight⟩⟩

/-- The place that a straight path names. -/
def Path.named (path : Path) : Place :=
  (namesOf path.text).filter fun name => name ≠ "" ∧ name ≠ "."

namespace FileSystem

variable {made : Path → Prop} {files middle later : FileSystem} {path : Path}
  {follow : Bool} {links : Nat} {start place goal : Place} {names : List String}

/-! ## Walks through what is missing -/

/-- A place that is a directory, or can become one. -/
def IsOpen (files : FileSystem) (place : Place) : Prop :=
  files.find? place = none ∨ files.find? place = some .directory

/-- A walk along names that takes what is missing for a directory gets from a place to a place. -/
inductive Heads (files : FileSystem) : Nat → Place → List String → Place → Prop
  | arrived {links : Nat} {start : Place} : Heads files links start [] start
  | silent {links : Nat} {start goal : Place} {name : String} {rest : List String}
      (isOpen : files.IsOpen start) (silent : name = "" ∨ name = ".")
      (onward : Heads files links start rest goal) : Heads files links start (name :: rest) goal
  | up {links : Nat} {start goal : Place} {rest : List String} (isOpen : files.IsOpen start)
      (onward : Heads files links start.dropLast rest goal) :
      Heads files links start (".." :: rest) goal
  | last {links : Nat} {start : Place} {name : String} (isOpen : files.IsOpen start)
      (proper : IsProper name) : Heads files links start [name] (start ++ [name])
  | jump {links : Nat} {start goal : Place} {name target : String} {rest : List String}
      (isOpen : files.IsOpen start) (proper : IsProper name)
      (link : files.find? (start ++ [name]) = some (.link target)) (more : rest ≠ [])
      (told : target.isEmpty = false)
      (onward : Heads files links (if (Path.mk target).isAbsolute then [] else start)
        (namesOf target ++ rest) goal) :
      Heads files (links + 1) start (name :: rest) goal
  | down {links : Nat} {start goal : Place} {name : String} {rest : List String}
      (isOpen : files.IsOpen start) (proper : IsProper name) (more : rest ≠ [])
      (onward : Heads files links (start ++ [name]) rest goal) :
      Heads files links start (name :: rest) goal

/-- A walk that gets somewhere heads there. -/
theorem Leads.heads (leads : files.Leads false links start names goal) :
    files.Heads links start names goal := by
  induction leads with
  | arrived => exact .arrived
  | silent directory silent _ inductionHypothesis =>
    exact .silent (.inr directory) silent inductionHypothesis
  | up directory _ inductionHypothesis => exact .up (.inr directory) inductionHypothesis
  | absent directory proper _ => exact .last (.inr directory) proper
  | unfollowed directory proper _ _ => exact .last (.inr directory) proper
  | jump directory proper link followed told _ inductionHypothesis =>
    exact .jump (.inr directory) proper link (by simpa using followed) told inductionHypothesis
  | @down _ _ _ _ rest _ directory proper _ _ onward inductionHypothesis =>
    by_cases last : rest = []
    · subst last
      cases onward
      exact .last (.inr directory) proper
    · exact .down (.inr directory) proper last inductionHypothesis

theorem Heads.blanks {blanks : List String} (isOpen : files.IsOpen place)
    (blank : ∀ name ∈ blanks, name = "") : files.Heads links place blanks place := by
  induction blanks with
  | nil => exact .arrived
  | cons name blanks inductionHypothesis =>
    have rest : ∀ name ∈ blanks, name = "" :=
      fun other member => blank other (List.mem_cons_of_mem _ member)
    exact .silent isOpen (.inl (blank name List.mem_cons_self)) (inductionHypothesis rest)

/-- Slashes at the end make no difference where nothing stands. -/
theorem Leads.heads_append {blanks : List String}
    (leads : files.Leads false links start names goal) (absent : files.find? goal = none)
    (blank : ∀ name ∈ blanks, name = "") : files.Heads links start (names ++ blanks) goal := by
  have silent {links : Nat} : files.Heads links goal blanks goal := .blanks (.inl absent) blank
  induction leads with
  | arrived => exact silent
  | silent directory quiet _ inductionHypothesis =>
    exact .silent (.inr directory) quiet (inductionHypothesis absent silent)
  | up directory _ inductionHypothesis =>
    exact .up (.inr directory) (inductionHypothesis absent silent)
  | absent directory proper _ =>
    by_cases last : blanks = []
    · subst last
      exact .last (.inr directory) proper
    · exact .down (.inr directory) proper last silent
  | unfollowed _ _ link _ => simp [absent] at link
  | jump directory proper link followed told _ inductionHypothesis =>
    have onward := inductionHypothesis absent silent
    rw [List.append_assoc] at onward
    have more : ∀ {rest : List String}, rest ≠ [] → rest ++ blanks ≠ [] := by simp +contextual
    exact .jump (.inr directory) proper link (more (by simpa using followed)) told onward
  | @down _ _ _ _ rest _ directory proper found _ onward inductionHypothesis =>
    by_cases last : rest = []
    · subst last
      cases onward
      simp [absent] at found
    · exact .down (.inr directory) proper (by simp [last]) (inductionHypothesis absent silent)

/-! ## Paths that lead to something -/

theorem canonical_eq_ok_iff {resolved : Path} :
    files.canonical path = .ok resolved ↔
      ∃ place entry, files.resolve path = .ok place ∧ files.find? place = some entry ∧
        resolved = pathOf place := by
  rw [canonical, Except.bind_eq_ok_iff]
  constructor
  · rintro ⟨place, leads, named⟩
    cases found : files.find? place with
    | none => simp [found] at named
    | some entry =>
      rw [found] at named
      cases named
      exact ⟨place, entry, leads, found, rfl⟩
  · rintro ⟨place, entry, leads, found, rfl⟩
    exact ⟨place, leads, by rw [found]⟩

theorem doesExist_eq_true_iff :
    files.doesExist path = true ↔
      ∃ place entry, files.resolve path = .ok place ∧ files.find? place = some entry := by
  rw [doesExist, lookup]
  cases resolved : files.resolve path with
  | error failure => simp [bind, Except.bind]
  | ok place =>
    cases found : files.find? place with
    | none => simp [found, bind, Except.bind]
    | some entry => simp [found, bind, Except.bind]

/-! ## Where paths head -/

/-- The place that a path leads to once the missing directories on its way are there. -/
def HeadsTo (files : FileSystem) (path : Path) (place : Place) : Prop :=
  acceptable path = .ok () ∧
    files.Heads linkBudget (files.startOf path) (namesOf path.text) place

/-- Nothing stands where a path heads. -/
def IsFree (files : FileSystem) (path : Path) : Prop :=
  ∀ place, files.HeadsTo path place → files.find? place = none

/-- Two paths head for different places. -/
def AreApart (files : FileSystem) (path other : Path) : Prop :=
  ∀ place, files.HeadsTo path place → ¬files.HeadsTo other place

/-- Where no links stand, a walk that does not turn back heads for the place that is named. -/
theorem Heads.eq_of_straight (unlinked : ∀ place target, files.find? place ≠ some (.link target))
    (straight : ".." ∉ names) (heads : files.Heads links start names goal) :
    goal = start ++ names.filter fun name => name ≠ "" ∧ name ≠ "." := by
  induction heads with
  | arrived => exact (List.append_nil _).symm
  | silent _ silent _ inductionHypothesis =>
    rw [List.mem_cons, not_or] at straight
    rcases silent with rfl | rfl <;> simpa using inductionHypothesis straight.2
  | up => exact absurd List.mem_cons_self straight
  | last _ proper =>
    have spoken := not_or.1 proper.spoken
    simp [spoken]
  | jump _ _ link => exact absurd link (unlinked _ _)
  | down _ proper _ _ inductionHypothesis =>
    have spoken := not_or.1 proper.spoken
    rw [List.mem_cons, not_or] at straight
    simp [inductionHypothesis straight.2, spoken]

theorem HeadsTo.eq_named (unlinked : ∀ place target, files.find? place ≠ some (.link target))
    (straight : path.IsStraight) (heads : files.HeadsTo path place) : place = path.named := by
  have named := heads.2.eq_of_straight unlinked straight.straight
  rwa [startOf, if_pos straight.isAbsolute, List.nil_append] at named

/-- What is made where nothing stands is made where the path heads. -/
theorem headsTo_of_resolveTarget (resolved : files.resolveTarget path = .ok place)
    (absent : files.find? place = none) : files.HeadsTo path place := by
  rcases resolveTarget_eq_ok_iff.1 resolved with ⟨accepted, leads⟩
  rcases namesOf_eq_append path with ⟨blanks, blank, split⟩
  refine ⟨accepted, ?_⟩
  rw [split]
  exact leads.heads_append absent blank

/-! ## Directories that are made -/

/-- A missing directory is made at one of the given paths. -/
inductive MakesDirectory (made : Path → Prop) : FileSystem → FileSystem → Prop
  | make {files : FileSystem} {path : Path} {place : Place} (wanted : made path)
      (resolved : files.resolveTarget path = .ok place) (absent : files.find? place = none) :
      MakesDirectory made files (files.put place .directory)

theorem MakesDirectory.mono {wider : Path → Prop} (weaken : ∀ path, made path → wider path)
    (makes : MakesDirectory made files later) : MakesDirectory wider files later := by
  cases makes with
  | make wanted resolved absent => exact .make (weaken _ wanted) resolved absent

theorem place_ne_root (absent : files.find? place = none) : place ≠ [] := by
  rintro rfl
  simp at absent

/-- A walk that takes what is missing for a directory headed for the same place before a directory
was made. -/
theorem Heads.of_put (absent : files.find? place = none)
    (heads : (files.put place .directory).Heads links start names goal) :
    files.Heads links start names goal := by
  have below := place_ne_root absent
  have isOpen {other : Place} (opened : (files.put place .directory).IsOpen other) :
      files.IsOpen other := by
    by_cases same : other = place
    · exact .inl (same ▸ absent)
    · rwa [IsOpen, find?_put_of_ne files _ same] at opened
  have linked {other : Place} {target : String}
      (link : (files.put place .directory).find? other = some (.link target)) :
      files.find? other = some (.link target) := by
    by_cases same : other = place
    · simp [same, find?_put_self files _ below] at link
    · rwa [find?_put_of_ne files _ same] at link
  induction heads with
  | arrived => exact .arrived
  | silent opened silent _ inductionHypothesis =>
    exact .silent (isOpen opened) silent inductionHypothesis
  | up opened _ inductionHypothesis => exact .up (isOpen opened) inductionHypothesis
  | last opened proper => exact .last (isOpen opened) proper
  | jump opened proper link more told _ inductionHypothesis =>
    exact .jump (isOpen opened) proper (linked link) more told inductionHypothesis
  | down opened proper more _ inductionHypothesis =>
    exact .down (isOpen opened) proper more inductionHypothesis

/-- Directories have been made at some of the given paths. -/
structure Grown (made : Path → Prop) (files later : FileSystem) : Prop where
  here : later.here = files.here
  /-- No walk heads for another place. -/
  heads {links : Nat} {start goal : Place} {names : List String}
    (heads : later.Heads links start names goal) : files.Heads links start names goal
  kept {place : Place} {entry : Entry} (found : files.find? place = some entry) :
    later.find? place = some entry
  /-- What is new stands where one of the paths heads. -/
  fresh {place : Place} {entry : Entry} (found : later.find? place = some entry) :
    files.find? place = some entry ∨ ∃ path, made path ∧ files.HeadsTo path place

namespace Grown

theorem refl (files : FileSystem) : Grown made files files where
  here := rfl
  heads := id
  kept := id
  fresh := .inl

theorem headsTo (grown : Grown made files later) (heads : later.HeadsTo path place) :
    files.HeadsTo path place := by
  have start : later.startOf path = files.startOf path := by
    rw [startOf, startOf, grown.here]
  rw [HeadsTo, start] at heads
  exact ⟨heads.1, grown.heads heads.2⟩

/-- One more directory. -/
theorem tail (grown : Grown made files middle) (makes : MakesDirectory made middle later) :
    Grown made files later := by
  cases makes with
  | @make path place wanted resolved absent =>
    constructor
    · exact grown.here
    · exact fun heads => grown.heads (heads.of_put absent)
    · intro other entry found
      have stands := grown.kept found
      have distinct : other ≠ place := by
        rintro rfl
        simp [absent] at stands
      exact (find?_put_of_ne middle _ distinct).trans stands
    · intro other entry found
      by_cases same : other = place
      · subst same
        exact .inr ⟨path, wanted, grown.headsTo (headsTo_of_resolveTarget resolved absent)⟩
      · rw [find?_put_of_ne middle _ same] at found
        exact grown.fresh found

theorem of_steps (steps : ReflTransGen (MakesDirectory made) files later) :
    Grown made files later := by
  induction steps with
  | refl => exact refl files
  | tail _ makes inductionHypothesis => exact inductionHypothesis.tail makes

theorem leads (grown : Grown made files later) {entry : Entry}
    (leads : files.Leads follow links start names goal) (found : files.find? goal = some entry) :
    later.Leads follow links start names goal := by
  induction leads with
  | arrived => exact .arrived
  | silent directory silent _ inductionHypothesis =>
    exact .silent (grown.kept directory) silent (inductionHypothesis found)
  | up directory _ inductionHypothesis =>
    exact .up (grown.kept directory) (inductionHypothesis found)
  | absent _ _ absent => simp [absent] at found
  | unfollowed directory proper link unfollowed =>
    exact .unfollowed (grown.kept directory) proper (grown.kept link) unfollowed
  | jump directory proper link followed told _ inductionHypothesis =>
    exact .jump (grown.kept directory) proper (grown.kept link) followed told
      (inductionHypothesis found)
  | down directory proper entered solid _ inductionHypothesis =>
    exact .down (grown.kept directory) proper (grown.kept entered) solid
      (inductionHypothesis found)

/-- Where a path leads to something it leads still. -/
theorem resolve (grown : Grown made files later) {entry : Entry}
    (resolved : files.resolve path = .ok place) (found : files.find? place = some entry) :
    later.resolve path = .ok place := by
  rcases resolve_eq_ok_iff.1 resolved with ⟨accepted, leads⟩
  refine resolve_eq_ok_iff.2 ⟨accepted, ?_⟩
  rw [startOf, grown.here]
  exact grown.leads leads found

theorem canonical (grown : Grown made files later) {resolved : Path}
    (named : files.canonical path = .ok resolved) : later.canonical path = .ok resolved := by
  rcases canonical_eq_ok_iff.1 named with ⟨place, entry, leads, found, same⟩
  exact canonical_eq_ok_iff.2 ⟨place, entry, grown.resolve leads found, grown.kept found, same⟩

/-- What is there is there still. -/
theorem doesExist (grown : Grown made files later) (present : files.doesExist path = true) :
    later.doesExist path = true := by
  rcases doesExist_eq_true_iff.1 present with ⟨place, entry, leads, found⟩
  exact doesExist_eq_true_iff.2 ⟨place, entry, grown.resolve leads found, grown.kept found⟩

/-- What a path leads to it leads to still. -/
theorem lookupNoFollow (grown : Grown made files later) {entry : Entry}
    (found : files.lookupNoFollow path = .ok entry) : later.lookupNoFollow path = .ok entry := by
  rcases lookupNoFollow_eq_ok_iff.1 found with ⟨accepted, place, leads, stands⟩
  refine lookupNoFollow_eq_ok_iff.2 ⟨accepted, place, ?_, grown.kept stands⟩
  rw [startOf, grown.here]
  exact grown.leads leads stands

/-- A path leads to nothing still, if nothing stands where it heads and no directory is made
there. -/
theorem isVacant (grown : Grown made files later) (free : files.IsFree path)
    (apart : ∀ other, made other → files.AreApart path other) : later.IsVacant path := by
  intro entry found
  rcases lookupNoFollow_eq_ok_iff.1 found with ⟨accepted, place, leads, stands⟩
  have heads : files.HeadsTo path place := grown.headsTo ⟨accepted, leads.heads⟩
  rcases grown.fresh stands with old | ⟨other, wanted, same⟩
  · simp [free place heads] at old
  · exact apart other wanted place heads same

end Grown

/-! ## Making them -/

theorem makeDirectory_eq_ok_iff :
    files.makeDirectory path = .ok later ↔
      ∃ place, files.resolveTarget path = .ok place ∧ files.find? place = none ∧
        later = files.put place .directory := by
  rw [makeDirectory, Except.bind_eq_ok_iff]
  constructor
  · rintro ⟨place, resolved, success⟩
    cases found : files.find? place with
    | some entry => simp [found] at success
    | none =>
      rw [found] at success
      cases success
      exact ⟨place, resolved, found, rfl⟩
  · rintro ⟨place, resolved, absent, rfl⟩
    exact ⟨place, resolved, by rw [absent]⟩

theorem makesDirectory_of_makeDirectory (wanted : made path)
    (success : files.makeDirectory path = .ok later) : MakesDirectory made files later := by
  rcases makeDirectory_eq_ok_iff.1 success with ⟨place, resolved, absent, rfl⟩
  exact .make wanted resolved absent

theorem ensureDirectory_makes (wanted : made path) :
    FileAct.Steps (MakesDirectory made) (FileAct.ensureDirectory path) := by
  apply FileAct.Steps.get
  intro files
  cases success : files.makeDirectory path with
  | ok later => exact ReflTransGen.single (makesDirectory_of_makeDirectory wanted success)
  | error failure => exact FileAct.Steps.ite (.pure _) (.throw _) files

theorem makeLevels_makes (upward : ∀ path above, path.parent? = some above → made path → made above)
    (levels : Nat) (wanted : made path) :
    FileAct.Steps (MakesDirectory made) (FileAct.makeLevels levels path) := by
  induction levels generalizing path with
  | zero => exact .throw _
  | succ levels inductionHypothesis =>
    apply FileAct.Steps.ite (.pure _)
    apply FileAct.Steps.get
    intro files
    split
    · rename_i later success
      exact ReflTransGen.single (makesDirectory_of_makeDirectory wanted success)
    · split
      · rename_i above up
        exact FileAct.Steps.bind (inductionHypothesis (upward path above up wanted))
          (fun _ => ensureDirectory_makes wanted) files
      · exact ReflTransGen.refl
    · exact FileAct.Steps.get (fun now => FileAct.Steps.ite (.pure ()) (.throw _) now) files

/-- Making a directory and those above it makes no others. -/
theorem makeDirectories_makes (path : Path) :
    FileAct.Steps (MakesDirectory path.IsAbove) (FileAct.makeDirectories path) :=
  makeLevels_makes (fun _ _ => .parent) _ .self

/-! ## Directories that are there -/

theorem isDirectory_eq_true_iff :
    files.isDirectory path = true ↔
      ∃ place, files.resolve path = .ok place ∧ files.find? place = some .directory := by
  rw [isDirectory, lookup]
  cases resolved : files.resolve path with
  | error failure => simp [bind, Except.bind]
  | ok place =>
    cases found : files.find? place with
    | none => simp [found, bind, Except.bind]
    | some entry => cases entry <;> simp [found, bind, Except.bind]

/-- A directory that is there is not made again, nor one that is reached through a link. -/
theorem makeDirectory_of_isDirectory (directory : files.isDirectory path = true) :
    files.makeDirectory path = .error .alreadyExists := by
  rcases isDirectory_eq_true_iff.1 directory with ⟨place, resolved, found⟩
  rcases resolve_eq_ok_iff.1 resolved with ⟨accepted, leads⟩
  rcases namesOf_eq_append path with ⟨blanks, -, split⟩
  rw [split] at leads
  have stands : ∃ nearer, files.Leads false linkBudget (files.startOf path)
      (namesBeforeSlashes path) nearer ∧ (files.find? nearer).isSome := by
    rcases leads.unfollowed_or_link with leads | ⟨nearer, target, leads, link⟩
    · exact leads.cut_short found
    · exact leads.cut_short link
  rcases stands with ⟨nearer, leads, stands⟩
  have reached : files.resolveTarget path = .ok nearer :=
    resolveTarget_eq_ok_iff.2 ⟨accepted, leads⟩
  obtain ⟨entry, stands⟩ := Option.isSome_iff_exists.1 stands
  simp [makeDirectory, reached, stands, bind, Except.bind]

theorem makeDirectories_of_isDirectory (directory : files.isDirectory path = true) :
    FileAct.makeDirectories path files = (.ok (), files) := by
  rcases isDirectory_eq_true_iff.1 directory with ⟨place, resolved, -⟩
  have written := (acceptable_eq_ok_iff.1 (resolve_eq_ok_iff.1 resolved).1).2.1
  have refused := makeDirectory_of_isDirectory directory
  rw [FileAct.makeDirectories, FileAct.makeLevels, if_neg (by simpa using written),
    FileAct.bind_apply, FileAct.get_apply]
  simp only [refused]
  change (get >>= fun now : FileSystem =>
    if now.isDirectory path = true then pure ()
    else throw IoError.alreadyExists : FileAct IoError Unit) files = _
  rw [FileAct.bind_apply, FileAct.get_apply]
  simp only [directory, if_true, FileAct.pure_apply]

theorem Leads.blanks {blanks : List String} (directory : files.find? place = some .directory)
    (blank : ∀ name ∈ blanks, name = "") : files.Leads follow links place blanks place := by
  induction blanks with
  | nil => exact .arrived
  | cons name blanks inductionHypothesis =>
    have rest : ∀ name ∈ blanks, name = "" :=
      fun other member => blank other (List.mem_cons_of_mem _ member)
    exact .silent directory (.inl (blank name List.mem_cons_self)) (inductionHypothesis rest)

/-- Where a walk ends at nothing, it leads to the directory that is made there, and slashes at the
end make no difference. -/
theorem Leads.of_made {blanks : List String} (leads : files.Leads false links start names goal)
    (absent : files.find? goal = none) (made : later.find? goal = some .directory)
    (kept : ∀ {place entry}, files.find? place = some entry → later.find? place = some entry)
    (blank : ∀ name ∈ blanks, name = "") :
    later.Leads true links start (names ++ blanks) goal := by
  have silent {links : Nat} : later.Leads true links goal blanks goal := .blanks made blank
  induction leads with
  | arrived => exact silent
  | silent directory quiet _ inductionHypothesis =>
    exact .silent (kept directory) quiet (inductionHypothesis absent made silent)
  | up directory _ inductionHypothesis =>
    exact .up (kept directory) (inductionHypothesis absent made silent)
  | absent directory proper _ => exact .down (kept directory) proper made nofun silent
  | unfollowed _ _ link _ => simp [absent] at link
  | jump directory proper link _ told _ inductionHypothesis =>
    have onward := inductionHypothesis absent made silent
    rw [List.append_assoc] at onward
    exact .jump (kept directory) proper (kept link) (.inr rfl) told onward
  | down directory proper found solid _ inductionHypothesis =>
    exact .down (kept directory) proper (kept found) solid (inductionHypothesis absent made silent)

/-- A directory that has been made is there. -/
theorem isDirectory_of_makeDirectory (success : files.makeDirectory path = .ok later) :
    later.isDirectory path = true := by
  rcases makeDirectory_eq_ok_iff.1 success with ⟨place, resolved, absent, rfl⟩
  rcases resolveTarget_eq_ok_iff.1 resolved with ⟨accepted, leads⟩
  rcases namesOf_eq_append path with ⟨blanks, blank, split⟩
  have grown : Grown (· = path) files (files.put place .directory) :=
    (Grown.refl files).tail (.make rfl resolved absent)
  have made : (files.put place .directory).find? place = some .directory :=
    find?_put_self files _ (place_ne_root absent)
  refine isDirectory_eq_true_iff.2 ⟨place, resolve_eq_ok_iff.2 ⟨accepted, ?_⟩, made⟩
  rw [split]
  exact leads.of_made absent made grown.kept blank

end FileSystem

namespace FileSystem

variable {files later : FileSystem} {path : Path}

theorem set_ensures (made : files.makeDirectory path = .ok later) :
    FileAct.EnsuresFrom (fun _ later => later.isDirectory path = true) files
      (set later : FileAct IoError Unit) := by
  intro _ _ done
  cases done
  exact isDirectory_of_makeDirectory made

/-- A failure is as good as success if the directory is there. -/
theorem tolerance_ensures (failure : IoError) :
    FileAct.EnsuresFrom (fun _ later => later.isDirectory path = true) files
      (if files.isDirectory path = true then pure () else throw failure :
        FileAct IoError Unit) := by
  by_cases directory : files.isDirectory path = true
  · rw [if_pos directory]
    exact .pure directory
  · rw [if_neg directory]
    exact .throw failure

theorem ensureDirectory_ensures (path : Path) (files : FileSystem) :
    FileAct.EnsuresFrom (fun _ later => later.isDirectory path = true) files
      (FileAct.ensureDirectory path) := by
  apply FileAct.EnsuresFrom.get
  split
  · rename_i middle made
    exact set_ensures made
  · exact tolerance_ensures _

/-- Where directories have been made, the last one is there. -/
theorem isDirectory_of_makeDirectories (written : path.text ≠ "")
    (success : FileAct.makeDirectories path files = (.ok (), later)) :
    later.isDirectory path = true := by
  have ensures : FileAct.EnsuresFrom (fun _ later => later.isDirectory path = true) files
      (FileAct.makeDirectories path) := by
    rw [FileAct.makeDirectories, FileAct.makeLevels, if_neg (by simpa using written)]
    apply FileAct.EnsuresFrom.get
    split
    · rename_i middle made
      exact set_ensures made
    · split
      · exact .bind fun _ middle _ => ensureDirectory_ensures path middle
      · exact .throw _
    · exact .get (tolerance_ensures _)
  exact ensures () later success

end FileSystem

end Steward
