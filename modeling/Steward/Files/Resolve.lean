import Steward.Files.FileSystem

/-!
# Resolving paths

A path is walked name by name from the root or from the current directory.
Every name but the last must lead to a directory; a symbolic link on the way
is replaced by the path it points to, at most forty times.  The last name may
lead to nothing: what a missing object means is for the caller to say.
-/

namespace Steward

/-- How many symbolic links one resolution follows. -/
def linkBudget : Nat := 40

/-- The longest name in bytes. -/
def longestName : Nat := 255

/-- The first length in bytes that a path may not have. -/
def pathLimit : Nat := 4096

/-- The stretches between the slashes of a text, the empty ones included. -/
def namesOf (text : String) : List String :=
  (Text.pieces (· == '/') text.toList).map String.ofList

namespace FileSystem

/-- Walks from a place along names.  `followLast` says whether a symbolic link under the last name
is followed as well.  Where a link is followed, `jump` goes on: it is given the place of the link's
directory, the text of the link and the names after it. -/
def walkWith (files : FileSystem) (followLast : Bool)
    (jump : Place → String → List String → Except IoError Place) (start : Place) :
    List String → Except IoError Place
  | [] => .ok start
  | name :: rest =>
    match files.find? start with
    | none => .error .notFound
    | some .directory =>
      if name = "" ∨ name = "." then walkWith files followLast jump start rest
      else if name = ".." then walkWith files followLast jump start.dropLast rest
      else if longestName < name.utf8ByteSize then .error .nameTooLong
      else
        match files.find? (start ++ [name]) with
        | none => if rest.isEmpty then .ok (start ++ [name]) else .error .notFound
        | some (.link target) =>
          if rest.isEmpty && !followLast then .ok (start ++ [name]) else jump start target rest
        | some _ => walkWith files followLast jump (start ++ [name]) rest
    | some _ => .error .notDirectory

/-- Walks from a place along names.  `links` says how many more symbolic links may be followed. -/
def walk (files : FileSystem) (followLast : Bool) :
    (links : Nat) → Place → List String → Except IoError Place
  | 0 => files.walkWith followLast fun _ _ _ => .error .tooManyLinks
  | links + 1 => files.walkWith followLast fun start target rest =>
    if target.isEmpty then .error .notFound
    else
      walk files followLast links (if (Path.mk target).isAbsolute then [] else start)
        (namesOf target ++ rest)

/-- Where a path starts. -/
def startOf (files : FileSystem) (path : Path) : Place :=
  if path.isAbsolute then [] else files.here

/-- Whether the system accepts the text of a path at all. -/
def acceptable (path : Path) : Except IoError Unit :=
  if path.text.toList.contains '\x00' then .error .nullInPath
  else if path.text.isEmpty then .error .notFound
  else if pathLimit ≤ path.text.utf8ByteSize then .error .nameTooLong
  else .ok ()

/-- The place a path leads to, every symbolic link followed. -/
def resolve (files : FileSystem) (path : Path) : Except IoError Place := do
  acceptable path
  files.walk true linkBudget (files.startOf path) (namesOf path.text)

/-- The place a path leads to when a symbolic link under its last name is not followed. -/
def resolveNoFollow (files : FileSystem) (path : Path) : Except IoError Place := do
  acceptable path
  files.walk false linkBudget (files.startOf path) (namesOf path.text)

/-- The names of a path without the empty ones that slashes at its end leave. -/
def namesBeforeSlashes (path : Path) : List String :=
  ((namesOf path.text).reverse.dropWhile String.isEmpty).reverse

/-- The place that a path names for making, moving or removing an object there: the last name is
not followed, and slashes after it do not count. -/
def resolveTarget (files : FileSystem) (path : Path) : Except IoError Place := do
  acceptable path
  files.walk false linkBudget (files.startOf path) (namesBeforeSlashes path)

/-- Whether a path ends in a name of its own, and not in a dot, two dots or the root. -/
def endsInName (path : Path) : Bool :=
  match (namesBeforeSlashes path).getLast? with
  | none => false
  | some name => name != "." && name != ".."

/-- What stands where a path leads, every symbolic link followed. -/
def lookup (files : FileSystem) (path : Path) : Except IoError Entry := do
  let place ← files.resolve path
  match files.find? place with
  | some entry => .ok entry
  | none => .error .notFound

/-- What stands where a path leads, a symbolic link under its last name not followed. -/
def lookupNoFollow (files : FileSystem) (path : Path) : Except IoError Entry := do
  let place ← files.resolveNoFollow path
  match files.find? place with
  | some entry => .ok entry
  | none => .error .notFound

/-- Whether a path leads to something, every symbolic link followed. -/
def doesExist (files : FileSystem) (path : Path) : Bool :=
  match files.lookup path with
  | .ok _ => true
  | .error _ => false

/-- Whether a path leads to a regular file. -/
def isFile (files : FileSystem) (path : Path) : Bool :=
  match files.lookup path with
  | .ok (.file _) => true
  | _ => false

def isDirectory (files : FileSystem) (path : Path) : Bool :=
  match files.lookup path with
  | .ok .directory => true
  | _ => false

/-- The path that names a place from the root. -/
def pathOf (place : Place) : Path :=
  ⟨"/" ++ String.intercalate "/" place⟩

/-- The path without symbolic links and dots that leads to the same object. -/
def canonical (files : FileSystem) (path : Path) : Except IoError Path := do
  let place ← files.resolve path
  match files.find? place with
  | some _ => .ok (pathOf place)
  | none => .error .notFound

/-! ## What befalls writes is no matter for a walk -/

theorem walkWith_spent (files : FileSystem) (followLast : Bool)
    (jump : Place → String → List String → Except IoError Place) (start : Place)
    (names : List String) :
    files.spent.walkWith followLast jump start names =
      files.walkWith followLast jump start names := by
  induction names generalizing start with
  | nil => rfl
  | cons name rest inductionHypothesis =>
    simp only [walkWith, inductionHypothesis, find?_spent]

@[simp]
theorem walk_spent (files : FileSystem) (followLast : Bool) (links : Nat) (start : Place)
    (names : List String) :
    files.spent.walk followLast links start names = files.walk followLast links start names := by
  induction links generalizing start names with
  | zero => exact walkWith_spent files followLast _ start names
  | succ links inductionHypothesis =>
    simp only [walk, inductionHypothesis, walkWith_spent]

@[simp]
theorem startOf_spent (files : FileSystem) (path : Path) :
    files.spent.startOf path = files.startOf path :=
  rfl

@[simp]
theorem resolveTarget_spent (files : FileSystem) (path : Path) :
    files.spent.resolveTarget path = files.resolveTarget path := by
  simp [resolveTarget]

end FileSystem

end Steward
