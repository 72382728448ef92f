import Steward.Proofs.Files.Running
import Steward.Proofs.Files.Walk

/-!
# What the operations on files change

Each operation that succeeds changes what stands at one place, or moves it to
another.  Here it is said which places those are and what the paths that were
given lead to afterwards.
-/

namespace Steward.FileSystem

variable {files later : FileSystem} {path : Path} {place : Place} {entry : Entry}

/-! ## What paths lead to -/

/-- A path that is accepted leads where its names lead. -/
theorem acceptable_walk_eq_ok_iff {follow : Bool} {names : List String} :
    (acceptable path >>= fun _ => files.walk follow linkBudget (files.startOf path) names) =
        .ok place ↔
      acceptable path = .ok () ∧
        files.Leads follow linkBudget (files.startOf path) names place := by
  rw [Except.bind_eq_ok_iff]
  constructor
  · rintro ⟨_, accepted, walked⟩
    exact ⟨accepted, walk_eq_ok_iff.1 walked⟩
  · rintro ⟨accepted, leads⟩
    exact ⟨(), accepted, walk_eq_ok_iff.2 leads⟩

theorem resolve_eq_ok_iff :
    files.resolve path = .ok place ↔
      acceptable path = .ok () ∧
        files.Leads true linkBudget (files.startOf path) (namesOf path.text) place :=
  acceptable_walk_eq_ok_iff

theorem resolveNoFollow_eq_ok_iff :
    files.resolveNoFollow path = .ok place ↔
      acceptable path = .ok () ∧
        files.Leads false linkBudget (files.startOf path) (namesOf path.text) place :=
  acceptable_walk_eq_ok_iff

theorem resolveTarget_eq_ok_iff :
    files.resolveTarget path = .ok place ↔
      acceptable path = .ok () ∧
        files.Leads false linkBudget (files.startOf path) (namesBeforeSlashes path) place :=
  acceptable_walk_eq_ok_iff

theorem lookupNoFollow_eq_ok_iff :
    files.lookupNoFollow path = .ok entry ↔
      acceptable path = .ok () ∧ ∃ place,
        files.Leads false linkBudget (files.startOf path) (namesOf path.text) place ∧
          files.find? place = some entry := by
  rw [lookupNoFollow, Except.bind_eq_ok_iff]
  constructor
  · rintro ⟨place, resolved, told⟩
    obtain ⟨accepted, leads⟩ := resolveNoFollow_eq_ok_iff.1 resolved
    cases found : files.find? place with
    | none => simp [found] at told
    | some other =>
      obtain rfl : other = entry := by simpa [found] using told
      exact ⟨accepted, place, leads, found⟩
  · rintro ⟨accepted, place, leads, found⟩
    exact ⟨place, resolveNoFollow_eq_ok_iff.2 ⟨accepted, leads⟩, by rw [found]⟩

/-- A path leads to nothing, not even to a link that leads nowhere. -/
def IsVacant (files : FileSystem) (path : Path) : Prop :=
  ∀ entry, files.lookupNoFollow path ≠ .ok entry

instance (files : FileSystem) (path : Path) : Decidable (files.IsVacant path) :=
  match told : files.lookupNoFollow path with
  | .ok entry => .isFalse fun vacant => vacant entry told
  | .error _ => .isTrue fun entry => by simp [told]

theorem isVacant_of_error {failure : IoError} (told : files.lookupNoFollow path = .error failure) :
    files.IsVacant path := by
  intro entry
  rw [told]
  exact nofun

/-- The names of a path are those before the slashes at its end, and then only empty ones. -/
theorem namesOf_eq_append (path : Path) :
    ∃ blanks, (∀ name ∈ blanks, name = "") ∧
      namesOf path.text = namesBeforeSlashes path ++ blanks := by
  refine ⟨((namesOf path.text).reverse.takeWhile String.isEmpty).reverse, ?_, ?_⟩
  · intro name member
    have blank := List.all_eq_true.1 List.all_takeWhile name (List.mem_reverse.1 member)
    simpa using blank
  · rw [namesBeforeSlashes, ← List.reverse_append, List.takeWhile_append_dropWhile,
      List.reverse_reverse]

/-- A path leads to nothing if it leads to nothing without the slashes at its end. -/
theorem isVacant_of_resolveTarget
    (absent : ∀ place, files.resolveTarget path = .ok place → files.find? place = none) :
    files.IsVacant path := by
  intro entry found
  obtain ⟨accepted, place, leads, stands⟩ := lookupNoFollow_eq_ok_iff.1 found
  obtain ⟨blanks, -, split⟩ := namesOf_eq_append path
  rw [split] at leads
  obtain ⟨nearer, leads, stands⟩ := leads.cut_short stands
  rw [absent nearer (resolveTarget_eq_ok_iff.2 ⟨accepted, leads⟩)] at stands
  cases stands

/-! ## Writing and moving -/

theorem write_eq_ok_iff {bytes : ByteArray} :
    files.write path bytes = .ok later ↔
      ∃ place, files.resolve path = .ok place ∧ files.find? place ≠ some .directory ∧
        later = files.put place (.file bytes) := by
  rw [write, Except.bind_eq_ok_iff]
  apply exists_congr
  intro place
  apply and_congr_right
  intro resolved
  split
  · rename_i directory
    simp [directory]
  · rename_i solid
    simp [Ne.intro solid, eq_comm]

/-- What is moved is a file or a link, and it takes the place of a file, of a link or of
nothing. -/
theorem of_moveOver {source target : Path} (moved : files.moveOver source target = .ok later) :
    ∃ old new entry, files.resolveTarget source = .ok old ∧
      files.resolveTarget target = .ok new ∧ files.find? old = some entry ∧
        entry ≠ .directory ∧ files.find? new ≠ some .directory ∧
          source.endsInSlash = false ∧ target.endsInSlash = false ∧
            later = (files.without old).put new entry := by
  obtain ⟨old, resolvedSource, moved⟩ := Except.bind_eq_ok_iff.1 moved
  obtain ⟨new, resolvedTarget, moved⟩ := Except.bind_eq_ok_iff.1 moved
  split at moved
  · split at moved
    · cases moved
    · cases moved
    · rename_i entry solid found
      split at moved
      · cases moved
      · rename_i slashes
        split at moved
        · cases moved
        · rename_i free
          cases moved
          simp only [Bool.or_eq_true, not_or, Bool.not_eq_true] at slashes
          exact ⟨old, new, entry, resolvedSource, resolvedTarget, found,
            fun same => solid (by rw [same]), free, slashes.1, slashes.2, rfl⟩
  · cases moved

/-- Only what has a name of its own is moved, and only to where it gets one. -/
theorem endsInName_of_moveOver {source target : Path}
    (moved : files.moveOver source target = .ok later) :
    endsInName source = true ∧ endsInName target = true := by
  obtain ⟨old, -, moved⟩ := Except.bind_eq_ok_iff.1 moved
  obtain ⟨new, -, moved⟩ := Except.bind_eq_ok_iff.1 moved
  split at moved
  · rename_i named
    simpa using named
  · cases moved

/-! ## Removing -/

/-- What is removed is a file or a link, and only it is removed. -/
theorem remove_eq_ok_iff :
    files.remove path = .ok later ↔
      ∃ place entry, files.resolveTarget path = .ok place ∧ files.find? place = some entry ∧
        entry ≠ .directory ∧ endsInName path = true ∧ path.endsInSlash = false ∧
          later = files.without place := by
  rw [remove, Except.bind_eq_ok_iff]
  apply exists_congr
  intro place
  simp only [exists_and_left]
  apply and_congr_right
  intro resolved
  cases named : endsInName path with
  | false => simp
  | true =>
    simp only [if_true]
    cases found : files.find? place with
    | none => simp
    | some entry =>
      cases slash : path.endsInSlash <;> cases entry <;> simp [eq_comm]

theorem absent_of_remove_notFound (missing : files.remove path = .error .notFound)
    (resolved : files.resolveTarget path = .ok place) : files.find? place = none := by
  rw [remove, resolved] at missing
  simp only [bind, Except.bind] at missing
  cases found : files.find? place with
  | none => rfl
  | some entry =>
    rw [found] at missing
    split at missing
    · cases entry with
      | directory => cases missing
      | file | link =>
        dsimp only at missing
        split at missing <;> cases missing
    · cases missing

/-- Discarding removes what stands at the place a path names, or nothing. -/
theorem discarded_eq (files : FileSystem) (path : Path) :
    files.discarded path = files ∨
      ∃ place, files.resolveTarget path = .ok place ∧
        files.discarded path = files.without place := by
  rw [discarded]
  cases removed : files.remove path with
  | error failure => exact .inl rfl
  | ok later =>
    obtain ⟨place, entry, resolved, -, -, -, -, rfl⟩ := remove_eq_ok_iff.1 removed
    exact .inr ⟨place, resolved, rfl⟩

/-- A path whose file or link has been removed leads to nothing. -/
theorem isVacant_of_remove (removed : files.remove path = .ok later) : later.IsVacant path := by
  obtain ⟨place, entry, resolved, found, solid, -, -, rfl⟩ := remove_eq_ok_iff.1 removed
  have placed : place ≠ [] := by
    rintro rfl
    rw [find?_root] at found
    exact solid (Option.some.inj found).symm
  apply isVacant_of_resolveTarget
  intro other reached
  obtain ⟨accepted, leads⟩ := resolveTarget_eq_ok_iff.1 reached
  have plain : (files.without place).IsPlain place := by
    intro entry stands
    rw [find?_without_self files placed] at stands
    cases stands
  have before := leads.of_agreesOff (files.agreesOff_without place).symm plain
  rw [resolveTarget_eq_ok_iff.2 ⟨accepted, before⟩] at resolved
  cases resolved
  exact find?_without_self files placed

/-- A path that has been cleared leads to nothing. -/
theorem isVacant_of_clear (cleared : (FileAct.clear path files).1 = .ok ()) :
    (files.discarded path).IsVacant path := by
  rw [FileAct.clear_apply] at cleared
  rw [discarded]
  cases removed : files.remove path with
  | ok later => exact isVacant_of_remove removed
  | error failure =>
      rw [removed] at cleared
      by_cases missing : failure = .notFound
      · subst missing
        exact isVacant_of_resolveTarget fun place => absent_of_remove_notFound removed
      · simp [missing] at cleared

end Steward.FileSystem
