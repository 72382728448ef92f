import Steward.Yaml.Character

/-!
# Line folding

A scalar that is not a literal block may run over several lines.  What stands
between two of its lines is a gap: spaces, the first line break, and more
breaks with the indentation between them.  A gap without a break counts as it
is, a single line feed as a space, and of several breaks the first line feed
is dropped.
-/

namespace Steward.Yaml

/-- What stands between two stretches of a scalar. -/
structure Gap where
  /-- The spaces and tabs before the first break. -/
  spaces : List Char
  /-- The line breaks. -/
  breaks : List Char
  /-- How many spaces and tabs stand after the last break. -/
  indent : Nat
  deriving DecidableEq, Repr

/-- Line breaks folded. -/
def foldBreaks : List Char → List Char
  | [] => []
  | '\n' :: [] => [' ']
  | '\n' :: more => more
  | breaks => breaks

namespace Gap

/-- What a gap stands for. -/
def folded (gap : Gap) : List Char :=
  if gap.breaks.isEmpty then gap.spaces else foldBreaks gap.breaks

/-- Whether a gap goes over to another line. -/
def isBroken (gap : Gap) : Bool :=
  !gap.breaks.isEmpty

/-- The column after a gap that begins in the given column. -/
def columnAfter (gap : Gap) (column : Nat) : Nat :=
  if gap.isBroken then gap.indent else column + gap.spaces.length

/-- Whether what follows the gap stands at the beginning of a line. -/
def endsAtLineStart (gap : Gap) : Bool :=
  gap.isBroken && gap.indent == 0

end Gap

/-- The line breaks that a text begins with, spaces and tabs between them left out, how many of
those come after the last break, and what follows.  So many have been passed already. -/
def readBreaks (passed : Nat) : List Char → List Char × Nat × List Char
  | [] => ([], passed, [])
  | c :: rest =>
    if isBreak c then
      let (breaks, indent, left) := readBreaks 0 rest
      (c :: breaks, indent, left)
    else if isSpace c then readBreaks (passed + 1) rest
    else ([], passed, c :: rest)

/-- The gap that a text begins with, and what follows. -/
def readGap (text : List Char) : Gap × List Char :=
  let (breaks, indent, left) := readBreaks 0 (text.dropWhile isSpace)
  (⟨text.takeWhile isSpace, breaks, indent⟩, left)

end Steward.Yaml
