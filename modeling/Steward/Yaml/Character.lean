/-!
# Characters of YAML

Which characters a document may hold, which of them break lines, and the
classes that the rules for tokens are stated with.  Line breaks come in five
forms; `normalised` leaves three, so that everything after it need not know
about carriage returns.
-/

namespace Steward.Yaml

/-- The mark that may stand in front of a text to tell its encoding. -/
def byteOrderMark : Char := Char.ofNat 0xFEFF

/-- The next line control, a line break of its own. -/
def nextLine : Char := Char.ofNat 0x85

def lineSeparator : Char := Char.ofNat 0x2028

def paragraphSeparator : Char := Char.ofNat 0x2029

/-- Whether a character may stand in a document. -/
def isAllowed (c : Char) : Bool :=
  let n := c.toNat
  n == 0x09 || n == 0x0A || n == 0x0D || (0x20 ≤ n && n ≤ 0x7E) || n == 0x85 ||
    (0xA0 ≤ n && n ≤ 0xD7FF) || (0xE000 ≤ n && n ≤ 0xFFFD) || 0x10000 ≤ n

/-- Whether a character breaks a line in a normalised document. -/
def isBreak (c : Char) : Bool :=
  c == '\n' || c == lineSeparator || c == paragraphSeparator

/-- Whether a character is a space or a tab. -/
def isSpace (c : Char) : Bool :=
  c == ' ' || c == '\t'

/-- Whether a character is a space, a tab or a line break. -/
def isGap (c : Char) : Bool :=
  isSpace c || isBreak c

/-- Whether a character may stand in the name of an anchor, a tag handle or a directive. -/
def isWordChar (c : Char) : Bool :=
  c.isAlphanum || c == '_' || c == '-'

/-- Whether what is left of a document begins with a line break, or nothing is left. -/
def atLineEnd : List Char → Bool
  | [] => true
  | c :: _ => isBreak c

/-- Whether what is left of a document begins with a space, a tab or a line break, or nothing is
left. -/
def atGap : List Char → Bool
  | [] => true
  | c :: _ => isGap c

/-- A document with one form of line break for a line feed, a carriage return, both together and
the next line control.  The two separators stay. -/
def normalised : List Char → List Char
  | [] => []
  | '\r' :: '\n' :: rest => '\n' :: normalised rest
  | c :: rest => (if c == '\r' || c == nextLine then '\n' else c) :: normalised rest

/-- Whether a line begins with a mark that ends a document or begins one. -/
def atDocumentMark : List Char → Bool
  | '-' :: '-' :: '-' :: rest => atGap rest
  | '.' :: '.' :: '.' :: rest => atGap rest
  | _ => false

/-! ## Columns -/

/-- The column after some text that begins in the given column. -/
def columnAfter (column : Nat) : List Char → Nat
  | [] => column
  | c :: rest => columnAfter (if isBreak c then 0 else column + 1) rest

/-- How many line breaks a text holds. -/
def breaksIn (text : List Char) : Nat :=
  text.countP isBreak

end Steward.Yaml
