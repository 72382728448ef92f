/-!
# Blanks, lines and words

How a text falls into lines and words.  A blank is a character with the
Unicode property `White_Space`; a line ends at a line feed, and a carriage
return right before it belongs to the end of the line.  Everything here is a
function on lists of characters with a thin layer over `String`.
-/

namespace Steward.Text

/-- The characters with the Unicode property `White_Space`. -/
def isBlank (c : Char) : Bool :=
  let n := c.toNat
  (9 ≤ n && n ≤ 13) || n == 0x20 || n == 0x85 || n == 0xA0 || n == 0x1680 ||
    (0x2000 ≤ n && n ≤ 0x200A) || n == 0x2028 || n == 0x2029 || n == 0x202F ||
    n == 0x205F || n == 0x3000

/-! ## Pieces -/

/-- The stretches of text between the characters that satisfy `cut`.  There is
always at least one stretch, possibly an empty one. -/
def pieces (cut : Char → Bool) : List Char → List (List Char)
  | [] => [[]]
  | c :: rest =>
    if cut c then [] :: pieces cut rest
    else match pieces cut rest with
      | [] => [[c]]
      | piece :: others => (c :: piece) :: others

theorem pieces_ne_nil (cut : Char → Bool) (cs : List Char) : pieces cut cs ≠ [] := by
  cases cs with
  | nil => simp [pieces]
  | cons c rest =>
    unfold pieces
    split
    · simp
    · split <;> simp

/-- The words of a text: what stands between blanks, empty stretches left out. -/
def wordsOf (cs : List Char) : List (List Char) :=
  (pieces isBlank cs).filter (fun piece => !piece.isEmpty)

/-- A line without the carriage return at its end, if it has one. -/
def withoutReturn (line : List Char) : List Char :=
  if line.getLast? = some '\r' then line.dropLast else line

/-- The lines of a text.  Text after the last line feed is a line only when it is not empty, and
it keeps a carriage return at its end. -/
def linesOf (cs : List Char) : List (List Char) :=
  let stretches := pieces (· == '\n') cs
  let unfinished := stretches.getLast?.getD []
  stretches.dropLast.map withoutReturn ++ (if unfinished.isEmpty then [] else [unfinished])

def lines (text : String) : List String :=
  (linesOf text.toList).map String.ofList

def words (text : String) : List String :=
  (wordsOf text.toList).map String.ofList

/-! ## Trimming -/

/-- A text without the blanks at its end. -/
def trimEnd (cs : List Char) : List Char :=
  (cs.reverse.dropWhile isBlank).reverse

/-- A text without the blanks at either end. -/
def trimmed (cs : List Char) : List Char :=
  trimEnd (cs.dropWhile isBlank)

def trim (text : String) : String :=
  String.ofList (trimmed text.toList)

/-! ## Searching -/

/-- Whether `part` stands somewhere in `whole`. -/
def occursIn (part : List Char) : List Char → Bool
  | [] => part.isEmpty
  | c :: rest => part.isPrefixOf (c :: rest) || occursIn part rest

/-- Whether `part` stands somewhere in `whole`. -/
def mentions (whole part : String) : Bool :=
  occursIn part.toList whole.toList

/-- A text with the ASCII capital letters made small; no other character changes. -/
def lowered (text : String) : String :=
  String.ofList (text.toList.map Char.toLower)

/-- Whether every character of the text is a blank. -/
def isAllBlank (text : String) : Bool :=
  text.toList.all isBlank

end Steward.Text
