import Steward.Files.Resolve

/-!
# Where walks lead

A walk that gets somewhere looks at the directories and links it comes through
and at nothing else.  `Leads` says step by step how it gets there, so that what
a change of the files does to walks is an induction on the steps.
-/

namespace Steward.FileSystem

/-- A name that is looked up in its directory. -/
structure IsProper (name : String) : Prop where
  /-- It is neither empty nor a dot. -/
  spoken : ¬(name = "" ∨ name = ".")
  /-- It is not two dots. -/
  downward : name ≠ ".."
  /-- It is not too long. -/
  short : ¬longestName < name.utf8ByteSize

/-- A walk along names leads from a place to a place with so many links left to follow. -/
inductive Leads (files : FileSystem) (follow : Bool) : Nat → Place → List String → Place → Prop
  | arrived {links : Nat} {start : Place} : Leads files follow links start [] start
  | silent {links : Nat} {start goal : Place} {name : String} {rest : List String}
      (directory : files.find? start = some .directory) (silent : name = "" ∨ name = ".")
      (onward : Leads files follow links start rest goal) :
      Leads files follow links start (name :: rest) goal
  | up {links : Nat} {start goal : Place} {rest : List String}
      (directory : files.find? start = some .directory)
      (onward : Leads files follow links start.dropLast rest goal) :
      Leads files follow links start (".." :: rest) goal
  | absent {links : Nat} {start : Place} {name : String}
      (directory : files.find? start = some .directory) (proper : IsProper name)
      (absent : files.find? (start ++ [name]) = none) :
      Leads files follow links start [name] (start ++ [name])
  | unfollowed {links : Nat} {start : Place} {name target : String}
      (directory : files.find? start = some .directory) (proper : IsProper name)
      (link : files.find? (start ++ [name]) = some (.link target)) (unfollowed : follow = false) :
      Leads files follow links start [name] (start ++ [name])
  | jump {links : Nat} {start goal : Place} {name target : String} {rest : List String}
      (directory : files.find? start = some .directory) (proper : IsProper name)
      (link : files.find? (start ++ [name]) = some (.link target))
      (followed : rest ≠ [] ∨ follow = true) (told : target.isEmpty = false)
      (onward : Leads files follow links (if (Path.mk target).isAbsolute then [] else start)
        (namesOf target ++ rest) goal) :
      Leads files follow (links + 1) start (name :: rest) goal
  | down {links : Nat} {start goal : Place} {name : String} {rest : List String} {entry : Entry}
      (directory : files.find? start = some .directory) (proper : IsProper name)
      (found : files.find? (start ++ [name]) = some entry)
      (solid : ∀ target, entry ≠ .link target)
      (onward : Leads files follow links (start ++ [name]) rest goal) :
      Leads files follow links start (name :: rest) goal

/-! ## Walks and where they lead -/

/-- How a walk goes on where it follows a link. -/
def onLink (files : FileSystem) (follow : Bool) :
    Nat → Place → String → List String → Except IoError Place
  | 0 => fun _ _ _ => .error .tooManyLinks
  | links + 1 => fun start target rest =>
    if target.isEmpty then .error .notFound
    else
      files.walk follow links (if (Path.mk target).isAbsolute then [] else start)
        (namesOf target ++ rest)

theorem walk_eq (files : FileSystem) (follow : Bool) (links : Nat) :
    files.walk follow links = files.walkWith follow (files.onLink follow links) := by
  cases links <;> rfl

variable {files later : FileSystem} {follow : Bool} {links : Nat} {start place goal : Place}
  {names : List String}

/-- A walk leads where it gets to if it does so from every link it follows. -/
theorem leads_of_walkWith
    (jumps : ∀ start name target rest goal, files.find? start = some .directory →
      IsProper name → files.find? (start ++ [name]) = some (.link target) →
      (rest ≠ [] ∨ follow = true) → files.onLink follow links start target rest = .ok goal →
      files.Leads follow links start (name :: rest) goal)
    (walked : files.walkWith follow (files.onLink follow links) start names = .ok goal) :
    files.Leads follow links start names goal := by
  fun_induction walkWith files follow (files.onLink follow links) start names with
  | case1 start =>
      cases walked
      exact .arrived
  | case2 | case5 | case7 | case11 => cases walked
  | case3 start name rest directory silent inductionHypothesis =>
      exact .silent directory silent (inductionHypothesis walked)
  | case4 start rest directory _ inductionHypothesis =>
      exact .up directory (inductionHypothesis walked)
  | case6 start name rest directory spoken downward short absent last =>
      cases walked
      obtain rfl := List.isEmpty_iff.1 last
      exact .absent directory ⟨spoken, downward, short⟩ absent
  | case8 start name rest directory spoken downward short target link unfollowed =>
      cases walked
      obtain ⟨rfl, rfl⟩ : rest = [] ∧ follow = false := by simpa using unfollowed
      exact .unfollowed directory ⟨spoken, downward, short⟩ link rfl
  | case9 start name rest directory spoken downward short target link followed =>
      refine jumps start name target rest goal directory ⟨spoken, downward, short⟩ link ?_ walked
      simpa [Decidable.or_iff_not_imp_left] using followed
  | case10 start name rest directory spoken downward short entry solid found
      inductionHypothesis =>
      exact .down directory ⟨spoken, downward, short⟩ found solid (inductionHypothesis walked)

theorem onLink_succ {target : String} (told : target.isEmpty = false) (rest : List String) :
    files.onLink follow (links + 1) start target rest =
      files.walk follow links (if (Path.mk target).isAbsolute then [] else start)
        (namesOf target ++ rest) := by
  simp [onLink, told]

theorem leads_of_walk (walked : files.walk follow links start names = .ok goal) :
    files.Leads follow links start names goal := by
  rw [walk_eq] at walked
  induction links generalizing start names goal with
  | zero =>
      refine leads_of_walkWith ?_ walked
      intro _ _ _ _ _ _ _ _ _ jumped
      cases jumped
  | succ links inductionHypothesis =>
      refine leads_of_walkWith ?_ walked
      intro start name target rest goal directory proper link followed jumped
      cases told : target.isEmpty with
      | true => simp [onLink, told] at jumped
      | false =>
        rw [onLink_succ told, walk_eq] at jumped
        exact .jump directory proper link followed told (inductionHypothesis jumped)

theorem Leads.walk (leads : files.Leads follow links start names goal) :
    files.walk follow links start names = .ok goal := by
  induction leads with
  | arrived => rw [walk_eq, walkWith]
  | silent directory silent _ inductionHypothesis =>
      rw [walk_eq] at inductionHypothesis ⊢
      simp only [walkWith, directory, if_pos silent, inductionHypothesis]
  | up directory _ inductionHypothesis =>
      rw [walk_eq] at inductionHypothesis ⊢
      simp [walkWith, directory, inductionHypothesis]
  | absent directory proper absent =>
      rw [walk_eq]
      simp [walkWith, directory, absent, proper.spoken, proper.downward, proper.short]
  | unfollowed directory proper link unfollowed =>
      rw [walk_eq]
      simp [walkWith, directory, link, unfollowed, proper.spoken, proper.downward, proper.short]
  | jump directory proper link followed told _ inductionHypothesis =>
      rw [walk_eq]
      simp only [walkWith, directory, link, if_neg proper.spoken, if_neg proper.downward,
        if_neg proper.short]
      rw [if_neg (by simpa [Decidable.or_iff_not_imp_left] using followed), onLink_succ told]
      exact inductionHypothesis
  | down directory proper found solid _ inductionHypothesis =>
      rw [walk_eq] at inductionHypothesis ⊢
      simp only [walkWith, directory, found, if_neg proper.spoken, if_neg proper.downward,
        if_neg proper.short]
      exact inductionHypothesis

/-- A walk gets to a place exactly when it leads there. -/
theorem walk_eq_ok_iff :
    files.walk follow links start names = .ok goal ↔ files.Leads follow links start names goal :=
  ⟨leads_of_walk, Leads.walk⟩

/-! ## Walks that follow the last link and walks that do not -/

/-- Without following it, whatever stands under the last name is where the walk leads. -/
theorem Leads.last {name : String} (directory : files.find? start = some .directory)
    (proper : IsProper name) : files.Leads false links start [name] (start ++ [name]) := by
  cases found : files.find? (start ++ [name]) with
  | none => exact .absent directory proper found
  | some entry =>
    by_cases link : ∃ target, entry = .link target
    · obtain ⟨target, rfl⟩ := link
      exact .unfollowed directory proper found rfl
    · exact .down directory proper found (fun target same => link ⟨target, same⟩) .arrived

/-- Where no link stands, following it makes no difference. -/
theorem Leads.followed (leads : files.Leads false links start names goal)
    (solid : ∀ target, files.find? goal ≠ some (.link target)) :
    files.Leads true links start names goal := by
  induction leads with
  | arrived => exact .arrived
  | silent directory silent _ inductionHypothesis =>
      exact .silent directory silent (inductionHypothesis solid)
  | up directory _ inductionHypothesis => exact .up directory (inductionHypothesis solid)
  | absent directory proper absent => exact .absent directory proper absent
  | unfollowed _ _ link _ => exact absurd link (solid _)
  | jump directory proper link _ told _ inductionHypothesis =>
      exact .jump directory proper link (.inr rfl) told (inductionHypothesis solid)
  | down directory proper found unlinked _ inductionHypothesis =>
      exact .down directory proper found unlinked (inductionHypothesis solid)

/-- Following the last link makes a difference only where a link stands. -/
theorem Leads.unfollowed_or_link (leads : files.Leads true links start names goal) :
    files.Leads false links start names goal ∨
      ∃ nearer target, files.Leads false links start names nearer ∧
        files.find? nearer = some (.link target) := by
  induction leads with
  | arrived => exact .inl .arrived
  | silent directory silent _ inductionHypothesis =>
      rcases inductionHypothesis with leads | ⟨nearer, target, leads, link⟩
      · exact .inl (.silent directory silent leads)
      · exact .inr ⟨nearer, target, .silent directory silent leads, link⟩
  | up directory _ inductionHypothesis =>
      rcases inductionHypothesis with leads | ⟨nearer, target, leads, link⟩
      · exact .inl (.up directory leads)
      · exact .inr ⟨nearer, target, .up directory leads, link⟩
  | absent directory proper absent => exact .inl (.absent directory proper absent)
  | unfollowed _ _ _ unfollowed => cases unfollowed
  | @jump _ _ _ _ _ rest directory proper here _ told _ inductionHypothesis =>
      by_cases last : rest = []
      · subst last
        exact .inr ⟨_, _, .last directory proper, here⟩
      · rcases inductionHypothesis with leads | ⟨nearer, target, leads, link⟩
        · exact .inl (.jump directory proper here (.inl last) told leads)
        · exact .inr ⟨nearer, target, .jump directory proper here (.inl last) told leads, link⟩
  | down directory proper entered solid _ inductionHypothesis =>
      rcases inductionHypothesis with leads | ⟨nearer, target, leads, link⟩
      · exact .inl (.down directory proper entered solid leads)
      · exact .inr ⟨nearer, target, .down directory proper entered solid leads, link⟩

/-- A walk that finds something at its end also finds something wherever it is cut short. -/
theorem Leads.cut_short {entry : Entry} {more : List String}
    (leads : files.Leads false links start (names ++ more) goal)
    (found : files.find? goal = some entry) :
    ∃ nearer, files.Leads false links start names nearer ∧ (files.find? nearer).isSome := by
  generalize whole : names ++ more = all at leads
  induction leads generalizing names with
  | arrived =>
      obtain ⟨rfl, -⟩ := List.append_eq_nil_iff.1 whole
      exact ⟨_, .arrived, by simp [found]⟩
  | silent directory silent onward inductionHypothesis =>
      cases names with
      | nil => exact ⟨_, .arrived, by simp [directory]⟩
      | cons name names =>
        cases whole
        obtain ⟨nearer, leads, stands⟩ := inductionHypothesis found rfl
        exact ⟨nearer, .silent directory silent leads, stands⟩
  | up directory _ inductionHypothesis =>
      cases names with
      | nil => exact ⟨_, .arrived, by simp [directory]⟩
      | cons name names =>
        cases whole
        obtain ⟨nearer, leads, stands⟩ := inductionHypothesis found rfl
        exact ⟨nearer, .up directory leads, stands⟩
  | absent directory proper absent => simp [absent] at found
  | unfollowed directory proper link unfollowed =>
      cases names with
      | nil => exact ⟨_, .arrived, by simp [directory]⟩
      | cons name names =>
        obtain ⟨rfl, ended⟩ := List.cons_eq_cons.1 whole
        obtain ⟨rfl, -⟩ := List.append_eq_nil_iff.1 ended
        exact ⟨_, .last directory proper, by simp [link]⟩
  | jump directory proper link _ told _ inductionHypothesis =>
      cases names with
      | nil => exact ⟨_, .arrived, by simp [directory]⟩
      | cons name names =>
        cases whole
        by_cases last : names = []
        · subst last
          exact ⟨_, .last directory proper, by simp [link]⟩
        · obtain ⟨nearer, leads, stands⟩ := inductionHypothesis found (List.append_assoc ..)
          exact ⟨nearer, .jump directory proper link (.inl last) told leads, stands⟩
  | down directory proper entered solid _ inductionHypothesis =>
      cases names with
      | nil => exact ⟨_, .arrived, by simp [directory]⟩
      | cons name names =>
        cases whole
        obtain ⟨nearer, leads, stands⟩ := inductionHypothesis found rfl
        exact ⟨nearer, .down directory proper entered solid leads, stands⟩

/-! ## Walks in changed files -/

/-- The file systems that agree with the given one everywhere but at a place. -/
def AgreesOff (place : Place) (files later : FileSystem) : Prop :=
  ∀ other, other ≠ place → later.find? other = files.find? other

theorem agreesOff_put (files : FileSystem) (place : Place) (entry : Entry) :
    files.AgreesOff place (files.put place entry) :=
  fun _ other => find?_put_of_ne files entry other

theorem agreesOff_without (files : FileSystem) (place : Place) :
    files.AgreesOff place (files.without place) :=
  fun _ other => find?_without_of_ne files other

theorem AgreesOff.symm (agrees : files.AgreesOff place later) : later.AgreesOff place files :=
  fun other distinct => (agrees other distinct).symm

/-- A place that no walk comes through: nothing stands there, or a file. -/
def IsPlain (files : FileSystem) (place : Place) : Prop :=
  ∀ entry, files.find? place = some entry → ∃ bytes, entry = .file bytes

theorem IsPlain.ne_of_directory {other : Place} (plain : files.IsPlain place)
    (directory : files.find? other = some .directory) : other ≠ place := by
  rintro rfl
  obtain ⟨_, same⟩ := plain _ directory
  cases same

theorem IsPlain.ne_of_link {other : Place} {target : String} (plain : files.IsPlain place)
    (link : files.find? other = some (.link target)) : other ≠ place := by
  rintro rfl
  obtain ⟨_, same⟩ := plain _ link
  cases same

/-- What stands at a plain place, and whatever comes to stand there, matters to no walk. -/
theorem Leads.of_agreesOff (agrees : files.AgreesOff place later) (plain : files.IsPlain place)
    (leads : files.Leads false links start names goal) :
    later.Leads false links start names goal := by
  have kept {other : Place} (directory : files.find? other = some .directory) :
      later.find? other = some .directory :=
    (agrees other (plain.ne_of_directory directory)).trans directory
  induction leads with
  | arrived => exact .arrived
  | silent directory silent _ inductionHypothesis =>
      exact .silent (kept directory) silent inductionHypothesis
  | up directory _ inductionHypothesis => exact .up (kept directory) inductionHypothesis
  | absent directory proper _ => exact .last (kept directory) proper
  | unfollowed directory proper _ _ => exact .last (kept directory) proper
  | jump directory proper link followed told _ inductionHypothesis =>
      have linked := (agrees _ (plain.ne_of_link link)).trans link
      exact .jump (kept directory) proper linked followed told inductionHypothesis
  | @down _ start _ name _ entry directory proper found solid onward inductionHypothesis =>
      by_cases here : start ++ [name] = place
      · -- A walk that comes to a file ends there.
        obtain ⟨bytes, rfl⟩ := plain entry (here ▸ found)
        cases onward with
        | arrived => exact .last (kept directory) proper
        | silent directory | up directory | absent directory | unfollowed directory
        | jump directory | down directory => simp [found] at directory
      · have entered := (agrees _ here).trans found
        exact .down (kept directory) proper entered solid inductionHypothesis

end Steward.FileSystem
