import Steward.Files.Error
import Steward.Files.Path

/-!
# File systems

A file system is a table from places to entries.  A place is the list of names
that leads from the root to it; the root itself is always a directory.  An
entry is a file with its bytes, a directory, or a symbolic link with the text
it points to.  `FileSystem.find?` is the view through which everything else
is stated.

Every file stands at one place only: there are no hard links, through which a
write under one name would change a file that has another.

A write may break off once its file is open, when the disk is full for
instance.  Nobody can tell beforehand, so what befalls the coming writes is
part of the file system too.
-/

namespace Steward

/-- The names from the root down to an object. -/
abbrev Place := List String

instance (place : Place) (places : List Place) : Decidable (place ∈ places) :=
  inferInstance

/-- What can stand at a place. -/
inductive Entry
  /-- A regular file and its bytes. -/
  | file (bytes : ByteArray)
  | directory
  /-- A symbolic link and the path it points to. -/
  | link (target : String)

/-- Entries are compared by what they hold. -/
instance : DecidableEq Entry
  | .file a, .file b => @decidable_of_iff _ (a = b) (by simp) (ByteArray.instDecidableEq a b)
  | .directory, .directory => isTrue rfl
  | .link a, .link b => decidable_of_iff (a = b) (by simp)
  | .file _, .directory | .file _, .link _ | .directory, .file _ | .directory, .link _
  | .link _, .file _ | .link _, .directory => isFalse nofun

/-- How a write breaks off: the first bytes are in the file, and the rest is refused. -/
structure Mishap where
  /-- How many bytes are written. -/
  kept : Nat
  cause : IoError
  deriving DecidableEq, Repr

/-- A table of entries, the directory that relative paths start from, and what befalls the writes
to come. -/
structure FileSystem where
  /-- What stands where, apart from the root. -/
  table : List (Place × Entry)
  here : Place
  /-- For one write after the other, how it breaks off if it does; all writes after these are
  completed. -/
  mishaps : List (Option Mishap)
  deriving DecidableEq

namespace FileSystem

/-- What stands at a place. -/
def find? (files : FileSystem) (place : Place) : Option Entry :=
  if place = [] then some .directory else files.table.lookup place

/-- The files with nothing at a place. -/
def without (files : FileSystem) (place : Place) : FileSystem :=
  { files with table := files.table.filter (fun row => row.1 != place) }

/-- The files with a new entry at a place. -/
def put (files : FileSystem) (place : Place) (entry : Entry) : FileSystem :=
  { files with table := (place, entry) :: (files.without place).table }

/-- How the next write breaks off, if it does. -/
def mishap? (files : FileSystem) : Option Mishap :=
  files.mishaps.head?.join

/-- The files with the next write behind them. -/
def spent (files : FileSystem) : FileSystem :=
  { files with mishaps := files.mishaps.tail }

/-! ## The view of an update -/

@[simp]
theorem find?_spent (files : FileSystem) : files.spent.find? = files.find? :=
  rfl

theorem lookup_filter_ne {table : List (Place × Entry)} {place other : Place} (h : other ≠ place) :
    (table.filter (fun row => row.1 != place)).lookup other = table.lookup other := by
  induction table with
  | nil => rfl
  | cons row rest inductionHypothesis =>
    obtain ⟨key, entry⟩ := row
    by_cases same : key = place
    · subst same
      have distinct : (other == key) = false := beq_eq_false_iff_ne.2 h
      simp [List.lookup_cons, distinct, inductionHypothesis]
    · have kept : (key != place) = true := by simpa using same
      simp only [List.filter_cons, kept, if_true, List.lookup_cons, inductionHypothesis]

theorem lookup_filter_self {table : List (Place × Entry)} {place : Place} :
    (table.filter (fun row => row.1 != place)).lookup place = none := by
  induction table with
  | nil => rfl
  | cons row rest inductionHypothesis =>
    obtain ⟨key, entry⟩ := row
    by_cases same : key = place
    · subst same
      simp [inductionHypothesis]
    · have kept : (key != place) = true := by simpa using same
      have distinct : (place == key) = false := beq_eq_false_iff_ne.2 (Ne.symm same)
      simp [List.lookup_cons, kept, distinct, inductionHypothesis]

@[simp]
theorem find?_root (files : FileSystem) : files.find? [] = some .directory := by
  simp [find?]

@[simp]
theorem find?_put_self (files : FileSystem) {place : Place} (entry : Entry) (h : place ≠ []) :
    (files.put place entry).find? place = some entry := by
  simp [find?, put, h]

theorem find?_put_of_ne (files : FileSystem) {place other : Place} (entry : Entry)
    (h : other ≠ place) : (files.put place entry).find? other = files.find? other := by
  unfold find? put without
  split
  · rfl
  · have distinct : (other == place) = false := beq_eq_false_iff_ne.2 h
    simp [List.lookup_cons, distinct, lookup_filter_ne h]

@[simp]
theorem find?_without_self (files : FileSystem) {place : Place} (h : place ≠ []) :
    (files.without place).find? place = none := by
  simp [find?, without, h, lookup_filter_self]

theorem find?_without_of_ne (files : FileSystem) {place other : Place} (h : other ≠ place) :
    (files.without place).find? other = files.find? other := by
  unfold find? without
  split
  · rfl
  · simp [lookup_filter_ne h]

end FileSystem

end Steward
