import Steward.Files.Operations

/-!
# Running computations on files

What the computations on files that the rest of the program is made of leave
behind, as functions of the files they are run on.
-/

namespace Except

variable {ε ε' β γ : Type}

theorem bind_eq_ok_iff {result : Except ε β} {next : β → Except ε γ} {value : γ} :
    (result >>= next) = .ok value ↔ ∃ first, result = .ok first ∧ next first = .ok value := by
  cases result with
  | error failure => simp [bind, Except.bind]
  | ok first => simp [bind, Except.bind]

theorem bind_eq_error_iff {result : Except ε β} {next : β → Except ε γ} {failure : ε} :
    (result >>= next) = .error failure ↔
      result = .error failure ∨ ∃ first, result = .ok first ∧ next first = .error failure := by
  cases result with
  | error cause => simp [bind, Except.bind]
  | ok first => simp [bind, Except.bind]

@[simp]
theorem mapError_ok (f : ε → ε') (value : β) :
    (.ok value : Except ε β).mapError f = .ok value :=
  rfl

@[simp]
theorem mapError_error (f : ε → ε') (failure : ε) :
    (.error failure : Except ε β).mapError f = .error (f failure) :=
  rfl

theorem exists_of_isOk {result : Except ε β} (success : result.isOk = true) :
    ∃ value, result = .ok value := by
  cases result with
  | error failure => cases success
  | ok value => exact ⟨value, rfl⟩

theorem map_eq_error_iff {f : β → γ} {result : Except ε β} {failure : ε} :
    result.map f = .error failure ↔ result = .error failure := by
  cases result with
  | error cause => simp [Except.map]
  | ok value => simp [Except.map]

theorem mapError_eq_ok_iff {f : ε → ε'} {result : Except ε β} {value : β} :
    result.mapError f = .ok value ↔ result = .ok value := by
  cases result with
  | error failure => simp
  | ok first => simp

theorem mapError_eq_error_iff {f : ε → ε'} {result : Except ε β} {failure : ε'} :
    result.mapError f = .error failure ↔ ∃ cause, result = .error cause ∧ f cause = failure := by
  cases result with
  | error cause => simp
  | ok value => simp

end Except

namespace Steward

variable {ε ε' β γ : Type}

namespace FileAct

@[simp]
theorem pure_apply (value : β) (files : FileSystem) :
    (pure value : FileAct ε β) files = (.ok value, files) :=
  rfl

@[simp]
theorem throw_apply (failure : ε) (files : FileSystem) :
    (throw failure : FileAct ε β) files = (.error failure, files) :=
  rfl

@[simp]
theorem get_apply (files : FileSystem) : (get : FileAct ε _) files = (.ok files, files) :=
  rfl

theorem bind_apply (act : FileAct ε β) (next : β → FileAct ε γ) (files : FileSystem) :
    (act >>= next) files =
      match act files with
      | (.ok value, later) => next value later
      | (.error failure, later) => (.error failure, later) := by
  show ExceptT.bindCont next (act files).1 (act files).2 = _
  rcases act files with ⟨_ | _, _⟩ <;> rfl

@[simp]
theorem adapt_apply (f : ε → ε') (act : FileAct ε β) (files : FileSystem) :
    (ExceptT.adapt f act : FileAct ε' β) files = ((act files).1.mapError f, (act files).2) :=
  rfl

/-- A computation of two steps succeeds when both do, one after the other. -/
theorem bind_eq_ok_iff {act : FileAct ε β} {next : β → FileAct ε γ} {files later : FileSystem}
    {value : γ} :
    (act >>= next) files = (.ok value, later) ↔
      ∃ first middle, act files = (.ok first, middle) ∧ next first middle = (.ok value, later) := by
  rw [bind_apply]
  rcases done : act files with ⟨failure | first, middle⟩
  · constructor
    · exact nofun
    · rintro ⟨_, _, ⟨⟩, _⟩
  · constructor
    · exact fun success => ⟨first, middle, rfl, success⟩
    · rintro ⟨_, _, ⟨⟩, success⟩
      exact success

theorem adapt_eq_ok_iff {f : ε → ε'} {act : FileAct ε β} {files later : FileSystem} {value : β} :
    (ExceptT.adapt f act : FileAct ε' β) files = (.ok value, later) ↔
      act files = (.ok value, later) := by
  rw [adapt_apply]
  rcases act files with ⟨failure | found, middle⟩
  · exact ⟨nofun, nofun⟩
  · exact ⟨fun | rfl => rfl, fun | rfl => rfl⟩

end FileAct

/-! ## Successes -/

/-- Run on the given files, a computation that succeeds ends with a value and files of which
something holds. -/
def FileAct.EnsuresFrom (holds : β → FileSystem → Prop) (files : FileSystem) (act : FileAct ε β) :
    Prop :=
  ∀ value later, act files = (.ok value, later) → holds value later

namespace FileAct.EnsuresFrom

variable {holds : β → FileSystem → Prop} {files : FileSystem}

theorem pure {value : β} (fits : holds value files) :
    EnsuresFrom holds files (pure value : FileAct ε β) := by
  rintro _ _ ⟨⟩
  exact fits

theorem throw (failure : ε) : EnsuresFrom holds files (throw failure : FileAct ε β) :=
  nofun

theorem get {next : FileSystem → FileAct ε β} (ensures : EnsuresFrom holds files (next files)) :
    EnsuresFrom holds files (get >>= next) :=
  ensures

theorem bind {act : FileAct ε γ} {next : γ → FileAct ε β}
    (ensures : ∀ value middle, act files = (.ok value, middle) →
      EnsuresFrom holds middle (next value)) :
    EnsuresFrom holds files (act >>= next) := by
  intro value later success
  obtain ⟨first, middle, done, success⟩ := FileAct.bind_eq_ok_iff.1 success
  exact ensures first middle done value later success

end FileAct.EnsuresFrom

/-! ## Failures -/

/-- Whatever files a computation is run on, its failure is one of the given. -/
def FileAct.FailsAs (given : ε → Prop) (act : FileAct ε β) : Prop :=
  ∀ files failure later, act files = (.error failure, later) → given failure

namespace FileAct.FailsAs

variable {given : ε → Prop}

theorem pure (value : β) : FileAct.FailsAs given (pure value : FileAct ε β) := by
  intro files failure later failed
  cases failed

theorem throw {failure : ε} (fits : given failure) :
    FileAct.FailsAs given (throw failure : FileAct ε β) := by
  intro files other later failed
  cases failed
  exact fits

/-- Nothing is done after a failure. -/
theorem throw_bind {failure : ε} (fits : given failure) (next : β → FileAct ε γ) :
    FileAct.FailsAs given (MonadExcept.throw failure >>= next) := by
  intro files other later failed
  cases failed
  exact fits

theorem bind {act : FileAct ε β} {next : β → FileAct ε γ} (first : FileAct.FailsAs given act)
    (second : ∀ value, FileAct.FailsAs given (next value)) :
    FileAct.FailsAs given (act >>= next) := by
  intro files failure later failed
  rw [FileAct.bind_apply] at failed
  cases left : act files with
  | mk result between =>
    cases result with
    | error cause =>
      rw [left] at failed
      cases failed
      exact first files _ _ left
    | ok value =>
      rw [left] at failed
      exact second value between failure later failed

theorem ite {condition : Prop} [Decidable condition] {act other : FileAct ε β}
    (positive : FileAct.FailsAs given act) (negative : FileAct.FailsAs given other) :
    FileAct.FailsAs given (if condition then act else other) := by
  split
  · exact positive
  · exact negative

theorem adapt {act : FileAct ε' β} {f : ε' → ε} (fits : ∀ failure, given (f failure)) :
    FileAct.FailsAs given (ExceptT.adapt f act : FileAct ε β) := by
  intro files failure later failed
  rw [FileAct.adapt_apply] at failed
  cases left : act files with
  | mk result between =>
    cases result with
    | error cause =>
      rw [left] at failed
      cases failed
      exact fits cause
    | ok value =>
      rw [left] at failed
      cases failed

/-- What is done next may depend on the files. -/
theorem get {next : FileSystem → FileAct ε β}
    (fails : ∀ files, FileAct.FailsAs given (next files)) :
    FileAct.FailsAs given (get >>= next) :=
  fun files => fails files files

end FileAct.FailsAs

/-! ## Values -/

/-- Whatever files a computation is run on, its value has a property. -/
def FileAct.Yields (wanted : β → Prop) (act : FileAct ε β) : Prop :=
  ∀ files value later, act files = (.ok value, later) → wanted value

namespace FileAct.Yields

variable {wanted : β → Prop}

theorem pure {value : β} (holds : wanted value) :
    FileAct.Yields wanted (pure value : FileAct ε β) := by
  intro files other later ended
  cases ended
  exact holds

theorem throw (failure : ε) : FileAct.Yields wanted (throw failure : FileAct ε β) := by
  intro files value later ended
  cases ended

theorem throw_bind (failure : ε) (next : γ → FileAct ε β) :
    FileAct.Yields wanted (MonadExcept.throw failure >>= next) := by
  intro files value later ended
  cases ended

theorem bind {earlier : γ → Prop} {act : FileAct ε γ} {next : γ → FileAct ε β}
    (first : FileAct.Yields earlier act)
    (second : ∀ value, earlier value → FileAct.Yields wanted (next value)) :
    FileAct.Yields wanted (act >>= next) := by
  intro files value later success
  obtain ⟨found, middle, done, success⟩ := FileAct.bind_eq_ok_iff.1 success
  exact second found (first files found middle done) middle value later success

/-- What is done next may depend on the files. -/
theorem get {next : FileSystem → FileAct ε β}
    (yields : ∀ files, FileAct.Yields wanted (next files)) :
    FileAct.Yields wanted (get >>= next) :=
  fun files => yields files files

theorem any (act : FileAct ε β) : FileAct.Yields (fun _ => True) act :=
  fun _ _ _ _ => trivial

theorem ite {condition : Prop} [Decidable condition] {act other : FileAct ε β}
    (positive : condition → FileAct.Yields wanted act)
    (negative : ¬condition → FileAct.Yields wanted other) :
    FileAct.Yields wanted (if condition then act else other) := by
  by_cases holds : condition
  · rw [if_pos holds]
    exact positive holds
  · rw [if_neg holds]
    exact negative holds

end FileAct.Yields

/-! ## Removing what may not be there -/

/-- The files without what stands under the last name of a path, if that can be removed. -/
def FileSystem.discarded (files : FileSystem) (path : Path) : FileSystem :=
  match files.remove path with
  | .ok later => later
  | .error _ => files

namespace FileAct

@[simp]
theorem discard_apply (path : Path) (files : FileSystem) :
    (FileAct.discard path : FileAct ε _) files = (.ok (), files.discarded path) := by
  simp only [FileAct.discard, FileAct.bind_apply, FileAct.get_apply, FileSystem.discarded]
  cases files.remove path <;> rfl

/-- Clearing a path fails only where something stands that cannot be removed. -/
@[simp]
theorem clear_apply (path : Path) (files : FileSystem) :
    FileAct.clear path files =
      (match files.remove path with
        | .ok _ => .ok ()
        | .error failure => if failure = .notFound then .ok () else .error failure,
        files.discarded path) := by
  simp only [FileAct.clear, FileAct.bind_apply, FileAct.get_apply, FileSystem.discarded]
  cases files.remove path with
  | ok later => rfl
  | error failure =>
    by_cases absent : failure = .notFound
    · subst absent
      rfl
    · dsimp only
      rw [if_neg absent]
      refine congrFun (?_ : _ = (throw failure : FileAct IoError Unit)) files
      split
      · contradiction
      · rename_i same
        exact absurd (Except.error.inj same) absent
      · rename_i same
        rw [Except.error.inj same]

end FileAct

/-! ## Writing -/

namespace FileSystem

variable {files : FileSystem} {bytes : ByteArray}

theorem arriving_of_calm (calm : files.mishap? = none) : files.arriving bytes = bytes := by
  rw [arriving, calm]

theorem arriving_of_mishap {mishap : Mishap} (befalls : files.mishap? = some mishap) :
    files.arriving bytes = bytes.extract 0 mishap.kept := by
  rw [arriving, befalls]

end FileSystem

/-- How a write ends: the file is not even opened, all bytes are in it, or the first of them. -/
inductive FileAct.Writes (files : FileSystem) (path : Path) (bytes : ByteArray) :
    Except IoError Unit × FileSystem → Prop
  | refused {failure : IoError} : Writes files path bytes (.error failure, files)
  | whole {written : FileSystem} (calm : files.mishap? = none)
      (wrote : files.write path bytes = .ok written) :
      Writes files path bytes (.ok (), written.spent)
  | broken {written : FileSystem} {mishap : Mishap} (befalls : files.mishap? = some mishap)
      (wrote : files.write path (bytes.extract 0 mishap.kept) = .ok written) :
      Writes files path bytes (.error mishap.cause, written.spent)

/-- How text is put in place: the draft is not opened, moved, discarded because it cannot be moved,
or left as it is because writing it broke off. -/
inductive FileAct.Replaces (files : FileSystem) (target draft : Path) (text : String) :
    Except (Path × IoError) Unit × FileSystem → Prop
  | refused {failure : IoError} : Replaces files target draft text (.error (draft, failure), files)
  | moved {written later : FileSystem} (calm : files.mishap? = none)
      (wrote : files.write draft text.toUTF8 = .ok written)
      (moved : written.spent.moveOver draft target = .ok later) :
      Replaces files target draft text (.ok (), later)
  | discarded {written : FileSystem} {failure : IoError} (calm : files.mishap? = none)
      (wrote : files.write draft text.toUTF8 = .ok written)
      (stuck : written.spent.moveOver draft target = .error failure) :
      Replaces files target draft text
        (.error (target, failure), written.spent.discarded draft)
  | broken {written : FileSystem} {mishap : Mishap} (befalls : files.mishap? = some mishap)
      (wrote : files.write draft (text.toUTF8.extract 0 mishap.kept) = .ok written) :
      Replaces files target draft text (.error (draft, mishap.cause), written.spent)

namespace FileAct

theorem write_ends (path : Path) (bytes : ByteArray) (files : FileSystem) :
    Writes files path bytes (FileAct.write path bytes files) := by
  rw [FileAct.write, bind_apply, get_apply]
  dsimp only
  cases wrote : files.write path (files.arriving bytes) with
  | error failure => exact .refused
  | ok written =>
    cases befalls : files.mishap? with
    | none =>
      rw [FileSystem.arriving_of_calm befalls] at wrote
      exact .whole befalls wrote
    | some mishap =>
      rw [FileSystem.arriving_of_mishap befalls] at wrote
      exact .broken befalls wrote

theorem replace_ends (target draft : Path) (text : String) (files : FileSystem) :
    Replaces files target draft text (FileAct.replace target draft text files) := by
  have written := write_ends draft text.toUTF8 files
  rw [FileAct.replace, FileAct.about, bind_apply, adapt_apply]
  generalize FileAct.write draft text.toUTF8 files = left at written ⊢
  cases written with
  | refused => exact .refused
  | broken befalls wrote => exact .broken befalls wrote
  | @whole written calm wrote =>
    simp only [Except.mapError_ok, bind_apply, get_apply]
    cases moved : written.spent.moveOver draft target with
    | ok later => exact .moved calm wrote moved
    | error failure =>
      simp only [bind_apply, discard_apply]
      exact .discarded calm wrote moved

end FileAct

end Steward
