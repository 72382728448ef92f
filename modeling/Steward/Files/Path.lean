import Steward.Text.Blank

/-!
# Paths

A path is a text whose slashes separate names.  Its parts are what the text
means: repeated slashes and single dots after the first name say nothing, so
two texts can name the same parts.  The operations here look at the text only
and never at the files.
-/

namespace Steward

/-- The text that names a file. -/
structure Path where
  /-- The text, exactly as it was given. -/
  text : String
  deriving DecidableEq, Repr

namespace Path

/-- Whether the path starts at the root. -/
def isAbsolute (path : Path) : Bool :=
  path.text.toList.head? = some '/'

def endsInSlash (path : Path) : Bool :=
  path.text.toList.getLast? = some '/'

/-! ## Joining -/

/-- The path `name` seen from `base`: an absolute name stands on its own, any other follows the
base after one slash. -/
def join (base : Path) (name : String) : Path :=
  if (Path.mk name).isAbsolute then ⟨name⟩
  else if base.text.isEmpty || base.endsInSlash then ⟨base.text ++ name⟩
  else ⟨base.text ++ "/" ++ name⟩

/-- A path with more text right after it. -/
def extend (path : Path) (more : String) : Path :=
  ⟨path.text ++ more⟩

/-! ## Parts -/

/-- What a text starts with: the slash of an absolute path, or a single dot that is a part. -/
def leading : List Char → List Char × List Char
  | '/' :: rest => (['/'], rest)
  | ['.'] => (['.'], [])
  | '.' :: '/' :: rest => (['.'], '/' :: rest)
  | cs => ([], cs)

/-- Whether a stretch between slashes says nothing. -/
def isSilent (name : List Char) : Bool :=
  name.isEmpty || name == ['.']

/-- The stretches between the slashes after the start of the text. -/
def stretches (path : Path) : List (List Char) :=
  Text.pieces (· == '/') (leading path.text.toList).2

/-- The parts of a path from left to right.  The root is the part `/`. -/
def parts (path : Path) : List (List Char) :=
  let front := (leading path.text.toList).1
  (if front.isEmpty then [] else [front]) ++ path.stretches.filter (fun name => !isSilent name)

/-- Whether two texts have the same parts. -/
def sameParts (a b : Path) : Bool :=
  a.parts == b.parts

/-- The stretches without the silent ones at the end. -/
def spoken (names : List (List Char)) : List (List Char) :=
  (names.reverse.dropWhile isSilent).reverse

/-- A path with the given start and stretches. -/
def rebuild (front : List Char) (names : List (List Char)) : Path :=
  ⟨String.ofList (front ++ List.intercalate ['/'] names)⟩

/-- The path without its last part.  The root and the empty path have none to give up. -/
def parent? (path : Path) : Option Path :=
  let (front, _) := leading path.text.toList
  match (spoken path.stretches).reverse with
  | _ :: earlier => some (rebuild front (spoken earlier.reverse))
  | [] => if front == ['.'] then some ⟨""⟩ else none

/-! ## Extensions -/

/-- A name up to its last dot, or all of it when no dot stands after the first character. -/
def stem (name : List Char) : List Char :=
  match (name.reverse.dropWhile (· != '.')).reverse.dropLast with
  | [] => name
  | front => front

/-- Whether nothing stands after the last name, so that the path ends in the name itself. -/
def endsInLastName (path : Path) : Bool :=
  !isSilent (path.stretches.getLast?.getD [])

/-- The path whose last name ends in a dot and `extension` in place of what stood after its last
dot.  A path that ends in no name is left alone, and so is what is left of a name that begins with
two dots and has no third: two dots are no name. -/
def withExtension (path : Path) (extension : String) : Path :=
  let (front, _) := leading path.text.toList
  match (spoken path.stretches).reverse with
  | name :: earlier =>
    if name == ['.', '.'] then path
    else if stem name == ['.'] && path.endsInLastName then
      rebuild front (earlier.reverse ++ [['.', '.']])
    else rebuild front (earlier.reverse ++ [stem name ++ '.' :: extension.toList])
  | [] => path

end Path

end Steward
