import Steward.Yaml.Character
import Steward.Yaml.Scalar.Quoted
import Steward.Yaml.Word

/-!
# Writing scalars

A text is written plain where that reads back as the same text.  A text that
would be taken for something else, or that holds indicators, stands between
single quotes; a text with line feeds is a literal block; and what neither can
hold stands between double quotes with escapes.
-/

namespace Steward.Yaml.Emit

/-! ## What a text holds -/

/-- Whether a character can be written as it is. -/
def isPrintable (c : Char) : Bool :=
  let n := c.toNat
  n == 0x0A || (0x20 ≤ n && n ≤ 0x7E) || (0xA0 ≤ n && n ≤ 0xD7FF) ||
    (0xE000 ≤ n && n ≤ 0xFFFD && n != 0xFEFF) || 0x10000 ≤ n

/-- Whether somewhere a character of the first kind is followed by one of the second. -/
def hasPair (first second : Char → Bool) : List Char → Bool
  | a :: b :: rest => (first a && second b) || hasPair first second (b :: rest)
  | _ => false

/-- Whether a character is the space proper. -/
def isBlank (c : Char) : Bool := c == ' '

/-- Whether a character is a space or a line break. -/
def isEdge (c : Char) : Bool := isBlank c || isBreak c

/-- Whether a text holds a character that must be escaped. -/
def hasSpecial (text : List Char) : Bool :=
  text.any (fun c => !isPrintable c)

/-- The characters that cannot begin a plain scalar. -/
def isOpening (c : Char) : Bool :=
  "#,[]\x7b\x7d&*!|>'\"%@\x60".toList.contains c

/-- Whether a text begins like something other than a plain scalar. -/
def beginsOtherwise : List Char → Bool
  | [] => false
  | c :: rest =>
    ['-', '-', '-'].isPrefixOf (c :: rest) || ['.', '.', '.'].isPrefixOf (c :: rest) ||
      isOpening c || ((c == '?' || c == ':' || c == '-') && atGap rest)

/-- Whether a text after its first character holds the mark of a value or a comment; `spaced` says
whether a gap stands before it. -/
def holdsMark (spaced : Bool) : List Char → Bool
  | [] => false
  | c :: rest =>
    (c == ':' && atGap rest) || (c == '#' && spaced) || holdsMark (isGap c) rest

/-- Whether a text can be written plain. -/
def fitsPlain (text : List Char) : Bool :=
  !(hasSpecial text || text.any isBreak || text.head?.any isBlank || text.getLast?.any isBlank ||
    beginsOtherwise text ||
    (match text with
      | [] => true
      | c :: rest => holdsMark (isGap c) rest))

/-- Whether a text can be written between single quotes. -/
def fitsSingleQuotes (text : List Char) : Bool :=
  !(hasSpecial text || hasPair isBlank isBreak text || hasPair isBreak isBlank text)

/-- Whether a text can be written as a literal block. -/
def fitsLiteral (text : List Char) : Bool :=
  !(hasSpecial text || hasPair isBlank isBreak text || text.getLast?.any isBlank)

/-- How a text is written. -/
def styleOf (text : List Char) : Style :=
  if text.contains '\n' then
    if fitsLiteral text then .literal else .doubleQuoted
  else if !Word.isTakenForOther (String.ofList text) && fitsPlain text then .plain
  else if fitsSingleQuotes text then .singleQuoted
  else .doubleQuoted

/-! ## The styles -/

/-- A character between double quotes. -/
def escaped (c : Char) : List Char :=
  match c with
  | '"' => ['\\', '"']
  | '\\' => ['\\', '\\']
  | '\n' => ['\\', 'n']
  | '\t' => ['\\', 't']
  | '\r' => ['\\', 'r']
  | c =>
    if isPrintable c && !isBreak c then [c]
    else
      match c.toNat with
      | 0 => ['\\', '0']
      | 0x07 => ['\\', 'a']
      | 0x08 => ['\\', 'b']
      | 0x0B => ['\\', 'v']
      | 0x0C => ['\\', 'f']
      | 0x1B => ['\\', 'e']
      | 0x85 => ['\\', 'N']
      | 0x2028 => ['\\', 'L']
      | 0x2029 => ['\\', 'P']
      | n =>
        if n ≤ 0xFF then '\\' :: 'x' :: (Text.capitalHex 2 n).toList
        else if n ≤ 0xFFFF then '\\' :: 'u' :: (Text.capitalHex 4 n).toList
        else '\\' :: 'U' :: (Text.capitalHex 8 n).toList

/-- A text between double quotes. -/
def doubleQuoted (text : List Char) : List Char :=
  '"' :: text.flatMap escaped ++ ['"']

/-- The indentation of the lines of a scalar. -/
def margin (indent : Nat) : List Char :=
  List.replicate indent ' '

/-- A text between single quotes from some place on; `broken` says whether a line break stands
before it.  Lines after the first are indented. -/
def singleQuotedFrom (indent : Nat) (broken : Bool) : List Char → List Char
  | [] => if broken then margin indent else []
  | c :: rest =>
    if isBreak c then c :: singleQuotedFrom indent true rest
    else
      (if broken then margin indent else []) ++ (if c == '\'' then ['\'', '\''] else [c]) ++
        singleQuotedFrom indent false rest

/-- A text between single quotes. -/
def singleQuoted (indent : Nat) (text : List Char) : List Char :=
  '\'' :: singleQuotedFrom indent false text ++ ['\'']

/-- What the header of a literal block says about the line breaks at the end. -/
def chompingMark (text : List Char) : List Char :=
  match text.reverse with
  | [] => ['-']
  | [last] => if isBreak last then ['+'] else ['-']
  | last :: earlier :: _ =>
    if !isBreak last then ['-'] else if isBreak earlier then ['+'] else []

/-- The header of a literal block.  The indentation is told where the first line does not show
it. -/
def literalHeader (text : List Char) : List Char :=
  '|' :: (if text.head?.any isEdge then ['2'] else []) ++ chompingMark text ++ ['\n']

/-- The lines of a literal block; `broken` says whether a line begins. -/
def literalLines (indent : Nat) (broken : Bool) : List Char → List Char
  | [] => if broken then [] else ['\n']
  | c :: rest =>
    if isBreak c then c :: literalLines indent true rest
    else (if broken then margin indent else []) ++ c :: literalLines indent false rest

/-! ## Entries -/

/-- A text as the value of a key in a mapping that is indented by `indent`, up to the end of its
last line. -/
def textValue (indent : Nat) (text : String) : List Char :=
  let cs := text.toList
  match styleOf cs with
  | .plain => cs ++ ['\n']
  | .singleQuoted => singleQuoted (indent + 2) cs ++ ['\n']
  | .doubleQuoted => doubleQuoted cs ++ ['\n']
  | _ => literalHeader cs ++ literalLines (indent + 2) true cs

/-- A value that can stand in an entry. -/
inductive Value
  | text (text : String)
  | truth (value : Bool)
  | number (n : Nat)
  deriving DecidableEq, Repr

/-- A key with a value, or without one. -/
abbrev Field := String × Option Value

/-- A value up to the end of its last line. -/
def Value.render (indent : Nat) : Value → List Char
  | .text content => textValue indent content
  | .truth value => (if value then "true" else "false").toList ++ ['\n']
  | .number n => (toString n).toList ++ ['\n']

/-- An entry of a mapping that is indented by `indent`; a key without value is left out. -/
def field (indent : Nat) : Field → List Char
  | (_, none) => []
  | (key, some value) => margin indent ++ key.toList ++ [':', ' '] ++ value.render indent

/-- A section: a key and below it a mapping. -/
def mappingSection (name : String) (fields : List Field) : List Char :=
  name.toList ++ [':', '\n'] ++ fields.flatMap (field 2)

end Steward.Yaml.Emit
