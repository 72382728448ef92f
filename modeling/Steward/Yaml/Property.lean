import Steward.Text.Decimal
import Steward.Text.Utf8
import Steward.Yaml.Character
import Steward.Yaml.Token

/-!
# Anchors, tags and directives

The marks that name nodes and types.  A tag is written in full between angle
brackets, or as a handle and a suffix; directives at the head of a document
give handles their meaning.
-/

namespace Steward.Yaml

/-! ## Anchors -/

/-- Whether what follows the name of an anchor ends it. -/
def endsAnchor : List Char → Bool
  | [] => true
  | c :: _ => isGap c || "?:,]\x7d%@\x60".toList.contains c

/-- The name of an anchor or alias, after its mark, and what follows. -/
def readAnchor (text : List Char) : Except Malformed (String × List Char) :=
  let name := text.takeWhile isWordChar
  let rest := text.dropWhile isWordChar
  if name.isEmpty || !endsAnchor rest then .error .anchorName
  else .ok (String.ofList name, rest)

/-! ## Tags -/

/-- Whether a character may stand in a tag.  Some may only where the tag is written in full. -/
def isTagChar (inFull : Bool) (c : Char) : Bool :=
  isWordChar c || ";/?:@&=+$.!~*'()".toList.contains c || (inFull && ",[]".toList.contains c)

/-- The value of two hexadecimal digits. -/
def octet? (a b : Char) : Option UInt8 :=
  (Text.numeral? 16 [a, b]).map UInt8.ofNat

/-- How many bytes the encoding of a character has that begins with a byte. -/
def octetsAfter? (b : UInt8) : Option Nat :=
  if b < 0x80 then some 0
  else if b &&& 0xE0 == 0xC0 then some 1
  else if b &&& 0xF0 == 0xE0 then some 2
  else if b &&& 0xF8 == 0xF0 then some 3
  else none

/-- The bytes of a tag up to a character that may not stand in one, and what follows.  `due` is
how many bytes of a character have still to come as escapes. -/
def readTagBytes (inFull : Bool) : (due : Nat) → List Char →
    Except Malformed (List UInt8 × List Char)
  | 0, '%' :: a :: b :: rest =>
    match octet? a b with
    | none => .error .badTag
    | some byte =>
      match octetsAfter? byte with
      | none => .error .badTag
      | some due => do
        let (bytes, left) ← readTagBytes inFull due rest
        .ok (byte :: bytes, left)
  | due + 1, '%' :: a :: b :: rest =>
    match octet? a b with
    | none => .error .badTag
    | some byte =>
      if byte &&& 0xC0 == 0x80 then do
        let (bytes, left) ← readTagBytes inFull due rest
        .ok (byte :: bytes, left)
      else .error .badTag
  | 0, c :: rest =>
    if c == '%' then .error .badTag
    else if isTagChar inFull c then do
      let (bytes, left) ← readTagBytes inFull 0 rest
      .ok (c.toString.toUTF8.data.toList ++ bytes, left)
    else .ok ([], c :: rest)
  | 0, [] => .ok ([], [])
  | _ + 1, _ => .error .badTag

/-- Part of a tag as text, and what follows. -/
def readTagText (inFull : Bool) (text : List Char) : Except Malformed (String × List Char) := do
  let (bytes, rest) ← readTagBytes inFull 0 text
  .ok (Text.decodeLossy ⟨bytes.toArray⟩, rest)

/-- The handle that a text begins with: an exclamation mark, and perhaps a word and a second
mark. -/
def readHandle (text : List Char) : Except Malformed (List Char × List Char) :=
  match text with
  | '!' :: rest =>
    let word := rest.takeWhile isWordChar
    match rest.dropWhile isWordChar with
    | '!' :: left => .ok ('!' :: word ++ ['!'], left)
    | left => .ok ('!' :: word, left)
  | _ => .error .badTag

/-- Whether a handle is closed by a second mark. -/
def isClosed (handle : List Char) : Bool :=
  1 < handle.length && handle.getLast? == some '!'

/-- A tag in full, after its opening bracket. -/
def readFullTag (text : List Char) : Except Malformed (Token × List Char) := do
  let (suffix, rest) ← readTagText true text
  match rest with
  | '>' :: rest =>
    if suffix.isEmpty then .error .badTag else .ok (.tag "" suffix, rest)
  | _ => .error .badTag

/-- A tag by a handle.  A word after a single mark is no handle but the suffix of the handle `!`;
the mark alone is a tag of its own. -/
def readShortTag (text : List Char) : Except Malformed (Token × List Char) := do
  let (handle, rest) ← readHandle text
  let (suffix, rest) ← readTagText false rest
  if isClosed handle then
    if suffix.isEmpty then .error .badTag else .ok (.tag (String.ofList handle) suffix, rest)
  else
    let suffix := String.ofList (handle.drop 1) ++ suffix
    if suffix.isEmpty then .ok (.tag "" "!", rest) else .ok (.tag "!" suffix, rest)

/-- Whether what follows a tag ends it. -/
def endsTag (inFlow : Bool) (text : List Char) : Bool :=
  atGap text || (inFlow && text.head? == some ',')

/-- The tag that a text begins with, and what follows. -/
def readTag (inFlow : Bool) (text : List Char) : Except Malformed (Token × List Char) := do
  let (tag, rest) ← match text with
    | '!' :: '<' :: rest => readFullTag rest
    | _ => readShortTag text
  if endsTag inFlow rest then .ok (tag, rest) else .error .badTag

/-! ## Directives -/

/-- A number of at most nine digits, and what follows. -/
def readVersionNumber (text : List Char) : Except Malformed (Nat × List Char) :=
  let digits := text.takeWhile Char.isDigit
  match Text.numeral? 10 digits with
  | some n =>
    if digits.length ≤ 9 then .ok (n, text.dropWhile Char.isDigit) else .error .badDirective
  | none => .error .badDirective

/-- The version in a directive, and what follows. -/
def readVersion (text : List Char) : Except Malformed (Token × List Char) := do
  let (major, rest) ← readVersionNumber (text.dropWhile isSpace)
  match rest with
  | '.' :: rest =>
    let (minor, rest) ← readVersionNumber rest
    .ok (.version major minor, rest)
  | _ => .error .badDirective

/-- The handle and its meaning in a directive, and what follows. -/
def readTagDirective (text : List Char) : Except Malformed (Token × List Char) := do
  let (handle, rest) ← readHandle (text.dropWhile isSpace)
  if handle != ['!'] && !isClosed handle then .error .badDirective
  else if !(rest.head?.any isSpace) then .error .badDirective
  else
    let (start, rest) ← readTagText true (rest.dropWhile isSpace)
    if start.isEmpty || !atGap rest then .error .badDirective
    else .ok (.tagDirective (String.ofList handle) start, rest)

/-- What follows a directive on its line, which may be a comment. -/
def skipDirectiveEnd (text : List Char) : Except Malformed (List Char) :=
  let text := text.dropWhile isSpace
  let text := if text.head? == some '#' then text.dropWhile (fun c => !isBreak c) else text
  match text with
  | [] => .ok []
  | c :: rest => if isBreak c then .ok rest else .error .badDirective

/-- The directive after its percent sign, and what follows its line. -/
def readDirective (text : List Char) : Except Malformed (Token × List Char) := do
  let name := text.takeWhile isWordChar
  let rest := text.dropWhile isWordChar
  if !atGap rest then .error .badDirective
  else
    let (token, rest) ← match String.ofList name with
      | "YAML" => readVersion rest
      | "TAG" => readTagDirective rest
      | _ => .error .badDirective
    let rest ← skipDirectiveEnd rest
    .ok (token, rest)

end Steward.Yaml
