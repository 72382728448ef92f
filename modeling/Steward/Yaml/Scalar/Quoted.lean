import Steward.Text.Decimal
import Steward.Yaml.Scalar.Folding
import Steward.Yaml.Token

/-!
# Quoted scalars

Between single quotes a quote is written twice and nothing else is special.
Between double quotes a backslash begins an escape, and a backslash at the end
of a line takes the line break away.
-/

namespace Steward.Yaml

/-! ## Single quotes -/

namespace SingleQuoted

/-- The stretch that a text begins with, up to a gap or the closing quote, and what follows. -/
def readRun : List Char → List Char × List Char
  | [] => ([], [])
  | '\'' :: '\'' :: rest =>
    let (run, left) := readRun rest
    ('\'' :: run, left)
  | c :: rest =>
    if c == '\'' || isGap c then ([], c :: rest)
    else
      let (run, left) := readRun rest
      (c :: run, left)

/-- Reads up to the closing quote; `atLineStart` says whether the text begins a line. -/
def readFrom : (fuel : Nat) → (atLineStart : Bool) → List Char →
    Except Malformed (List Char × List Char)
  | 0, _, _ => .error .openQuote
  | fuel + 1, atLineStart, text =>
    if atLineStart && atDocumentMark text then .error .documentMarkInQuote
    else if text.isEmpty then .error .openQuote
    else
      match readRun text with
      | (run, '\'' :: rest) => .ok (run, rest)
      | (run, left) =>
        let (gap, after) := readGap left
        do
          let (more, rest) ← readFrom fuel gap.endsAtLineStart after
          .ok (run ++ gap.folded ++ more, rest)

/-- The scalar up to the closing quote, and what follows the quote. -/
def read (text : List Char) : Except Malformed (List Char × List Char) :=
  readFrom (text.length + 1) false text

end SingleQuoted

/-! ## Double quotes -/

namespace DoubleQuoted

/-- The escapes of one character. -/
def escapes : List (Char × Char) := [
  ('0', Char.ofNat 0), ('a', Char.ofNat 7), ('b', Char.ofNat 8), ('t', '\t'), ('\t', '\t'),
  ('n', '\n'), ('v', Char.ofNat 11), ('f', Char.ofNat 12), ('r', '\r'), ('e', Char.ofNat 27),
  (' ', ' '), ('"', '"'), ('/', '/'), ('\\', '\\'), ('N', nextLine), ('_', Char.ofNat 0xA0),
  ('L', lineSeparator), ('P', paragraphSeparator)]

/-- The character with a number written in hexadecimal digits. -/
def charOf? (digits : List Char) : Option Char :=
  match Text.numeral? 16 digits with
  | some n => if n.isValidChar then some (Char.ofNat n) else none
  | none => none

/-- Puts the character of an escape in front of what has been read. -/
def consEscaped (char : Option Char) (more : Except Malformed (List Char × Bool × List Char)) :
    Except Malformed (List Char × Bool × List Char) :=
  match char with
  | some c => do
    let (run, broken, left) ← more
    .ok (c :: run, broken, left)
  | none => .error .badEscape

/-- The stretch that a text begins with, up to a gap, the closing quote or an escaped line break;
whether it was such a break, which is then passed over; and what follows. -/
def readRun : List Char → Except Malformed (List Char × Bool × List Char)
  | [] => .ok ([], false, [])
  | ['\\'] => .error .badEscape
  | '\\' :: 'x' :: a :: b :: rest => consEscaped (charOf? [a, b]) (readRun rest)
  | '\\' :: 'u' :: a :: b :: c :: d :: rest => consEscaped (charOf? [a, b, c, d]) (readRun rest)
  | '\\' :: 'U' :: a :: b :: c :: d :: e :: f :: g :: h :: rest =>
    consEscaped (charOf? [a, b, c, d, e, f, g, h]) (readRun rest)
  | '\\' :: c :: rest =>
    if isBreak c then .ok ([], true, rest) else consEscaped (escapes.lookup c) (readRun rest)
  | c :: rest =>
    if c == '"' || isGap c then .ok ([], false, c :: rest) else consEscaped (some c) (readRun rest)

/-- Reads up to the closing quote; `atLineStart` says whether the text begins a line. -/
def readFrom : (fuel : Nat) → (atLineStart : Bool) → List Char →
    Except Malformed (List Char × List Char)
  | 0, _, _ => .error .openQuote
  | fuel + 1, atLineStart, text =>
    if atLineStart && atDocumentMark text then .error .documentMarkInQuote
    else if text.isEmpty then .error .openQuote
    else do
      match ← readRun text with
      | (run, _, '"' :: rest) => .ok (run, rest)
      | (run, true, left) =>
        let (breaks, indent, after) := readBreaks 0 left
        let (more, rest) ← readFrom fuel (indent == 0) after
        .ok (run ++ breaks ++ more, rest)
      | (run, false, left) =>
        let (gap, after) := readGap left
        let (more, rest) ← readFrom fuel gap.endsAtLineStart after
        .ok (run ++ gap.folded ++ more, rest)

/-- The scalar up to the closing quote, and what follows the quote. -/
def read (text : List Char) : Except Malformed (List Char × List Char) :=
  readFrom (text.length + 1) false text

end DoubleQuoted

end Steward.Yaml
