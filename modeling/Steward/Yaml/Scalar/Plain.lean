import Steward.Yaml.Scalar.Folding
import Steward.Yaml.Token

/-!
# Plain scalars

A scalar without quotes ends before a colon with a gap after it, before a
comment, before the line that is indented too little, and inside a flow
collection before the indicators of the collection.
-/

namespace Steward.Yaml.Plain

/-- The characters that end a plain scalar inside a flow collection. -/
def endsInFlow (c : Char) : Bool :=
  c == ',' || c == '[' || c == ']' || c == '{' || c == '}'

/-- Whether what follows a colon inside a flow collection makes the colon a mistake. -/
def clashesInFlow : List Char → Bool
  | [] => false
  | c :: _ => endsInFlow c || c == '?'

/-- The stretch of a plain scalar that a text begins with, up to the first gap, and what
follows. -/
def readRun (inFlow : Bool) : List Char → Except Malformed (List Char × List Char)
  | [] => .ok ([], [])
  | c :: rest =>
    if isGap c then .ok ([], c :: rest)
    else if inFlow && c == ':' && clashesInFlow rest then .error .flowColon
    else if (c == ':' && atGap rest) || (inFlow && endsInFlow c) then .ok ([], c :: rest)
    else do
      let (run, left) ← readRun inFlow rest
      .ok (c :: run, left)

/-- Whether a tab stands in the indentation of a line, left of the margin. -/
def hasEarlyTab (margin column : Nat) : List Char → Bool
  | [] => false
  | c :: rest =>
    if isBreak c then hasEarlyTab margin 0 rest
    else if c == ' ' then hasEarlyTab margin (column + 1) rest
    else if c == '\t' then column < margin || hasEarlyTab margin (column + 1) rest
    else false

/-- What reading a plain scalar gives. -/
structure Reading where
  /-- What the scalar stands for. -/
  text : List Char
  /-- What follows it and the gap after it. -/
  rest : List Char
  /-- Whether that gap goes over to another line. -/
  broken : Bool

/-- The scalar with something in front. -/
def Reading.after (start : List Char) (reading : Reading) : Reading :=
  { reading with text := start ++ reading.text }

/-- Whether no line of a plain scalar begins with the text. -/
def stops (column : Nat) (text : List Char) : Bool :=
  (column == 0 && atDocumentMark text) || text.head? == some '#'

/-- Reads on after a gap; `column` is where the text begins. -/
def readFrom (inFlow : Bool) (margin : Nat) :
    (fuel : Nat) → (gap : Gap) → (column : Nat) → List Char → Except Malformed Reading
  | 0, gap, _, text => .ok ⟨[], text, gap.isBroken⟩
  | fuel + 1, gap, column, text =>
    if stops column text then .ok ⟨[], text, gap.isBroken⟩
    else do
      let (run, left) ← readRun inFlow text
      if run.isEmpty then .ok ⟨[], text, gap.isBroken⟩
      else
        let (next, after) := readGap left
        if hasEarlyTab margin 0 (left.dropWhile isSpace) then .error .tabIndentation
        else
          let column := next.columnAfter (column + run.length)
          let here := gap.folded ++ run
          if !inFlow && column < margin then .ok ⟨here, after, next.isBroken⟩
          else return (← readFrom inFlow margin fuel next column after).after here

/-- The plain scalar that a text begins with in the given column. -/
def read (inFlow : Bool) (margin column : Nat) (text : List Char) : Except Malformed Reading :=
  readFrom inFlow margin (text.length + 1) ⟨[], [], 0⟩ column text

end Steward.Yaml.Plain
