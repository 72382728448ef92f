import Steward.Yaml.Character
import Steward.Yaml.Token

/-!
# Block scalars

A block scalar is a header and the lines below it that are indented far
enough.  A literal block keeps its line breaks; a folded one turns a single
break between two lines into a space unless one of them begins with a space.
The header can say how far the lines are indented, and what becomes of the
breaks at the end.
-/

namespace Steward.Yaml.Block

/-- What becomes of the line breaks at the end. -/
inductive Chomping
  /-- All are dropped. -/
  | strip
  /-- The first is kept. -/
  | clip
  /-- All are kept. -/
  | keep
  deriving DecidableEq, Repr

/-- The header of a block. -/
structure Header where
  chomping : Chomping
  /-- How far the lines are indented beyond the block around. -/
  increment : Option Nat
  deriving DecidableEq, Repr

/-! ## Headers -/

/-- The chomping that a character stands for. -/
def chomping? : Char → Option Chomping
  | '+' => some .keep
  | '-' => some .strip
  | _ => none

/-- The increment that a text begins with, and what follows.  It is a digit from one to nine. -/
def readIncrement : List Char → Except Malformed (Option Nat × List Char)
  | c :: rest =>
    if c == '0' then .error .blockHeader
    else if c.isDigit then .ok (some (c.toNat - '0'.toNat), rest)
    else .ok (none, c :: rest)
  | [] => .ok (none, [])

/-- The chomping that a text begins with, and what follows. -/
def readChomping : List Char → Option Chomping × List Char
  | c :: rest =>
    match chomping? c with
    | some chomping => (some chomping, rest)
    | none => (none, c :: rest)
  | [] => (none, [])

/-- The two parts of a header in either order, and what follows. -/
def readIndicators (text : List Char) : Except Malformed (Header × List Char) :=
  match readChomping text with
  | (some chomping, rest) => do
    let (increment, rest) ← readIncrement rest
    .ok (⟨chomping, increment⟩, rest)
  | (none, _) => do
    match ← readIncrement text with
    | (some increment, rest) =>
      let (chomping, rest) := readChomping rest
      .ok (⟨chomping.getD .clip, some increment⟩, rest)
    | (none, rest) => .ok (⟨.clip, none⟩, rest)

/-- What follows the rest of the line, which may hold a comment. -/
def skipLineEnd (text : List Char) : Except Malformed (List Char) :=
  let text := text.dropWhile isSpace
  let text := if text.head? == some '#' then text.dropWhile (fun c => !isBreak c) else text
  match text with
  | [] => .ok []
  | c :: rest => if isBreak c then .ok rest else .error .blockHeader

/-! ## Lines -/

/-- Empty lines and the indentation of the first line that is not empty. -/
structure Lead where
  /-- The breaks of the empty lines. -/
  breaks : List Char
  /-- The column of what follows. -/
  column : Nat
  /-- The greatest column that any of the lines reached. -/
  most : Nat
  /-- What follows. -/
  rest : List Char

/-- Passes over empty lines and indentation, up to the column `limit` if there is one. -/
def readLead (limit : Option Nat) (column most : Nat) : List Char → Except Malformed Lead
  | [] => .ok ⟨[], column, most, []⟩
  | c :: rest =>
    let within := limit.all (fun limit => column < limit)
    if within && c == ' ' then readLead limit (column + 1) (max most (column + 1)) rest
    else if within && c == '\t' then .error .tabIndentation
    else if isBreak c then do
      let lead ← readLead limit 0 most rest
      .ok { lead with breaks := c :: lead.breaks }
    else .ok ⟨[], column, most, c :: rest⟩

/-- Whether a text begins with a space or a tab. -/
def startsWithSpace : List Char → Bool
  | [] => false
  | c :: _ => isSpace c

/-- The break between two lines as it counts: `broken` is the break after the line before, and
`spaced` whether one of the lines begins with a space. -/
def joint (style : Style) (broken : List Char) (spaced : Bool) (empty : List Char) : List Char :=
  if style == .folded && broken == ['\n'] && !spaced then
    (if empty.isEmpty then [' '] else empty)
  else broken ++ empty

/-- The line breaks at the end as they count. -/
def chomp (broken empty : List Char) : Chomping → List Char
  | .strip => []
  | .clip => broken
  | .keep => broken ++ empty

/-- Reads lines that are indented to a column.  `broken` is the break after the line before and
`spaced` whether that line began with a space; `lead` is what came after it. -/
def readLines (style : Style) (chomping : Chomping) (indent : Nat) :
    (fuel : Nat) → (broken : List Char) → (spaced : Bool) → (lead : Lead) →
      Except Malformed (List Char × List Char)
  | 0, broken, _, lead => .ok (chomp broken lead.breaks chomping, lead.rest)
  | fuel + 1, broken, spaced, lead =>
    if lead.column == indent && !lead.rest.isEmpty then do
      let line := lead.rest.takeWhile (fun c => !isBreak c)
      let after := lead.rest.dropWhile (fun c => !isBreak c)
      let here := startsWithSpace lead.rest
      let next ← readLead (some indent) 0 0 (after.drop 1)
      let (more, rest) ← readLines style chomping indent fuel (after.take 1) here next
      .ok (joint style broken (spaced || here) lead.breaks ++ line ++ more, rest)
    else .ok (chomp broken lead.breaks chomping, lead.rest)

/-- The block that follows the mark of a literal or folded block, inside a block whose contents
are indented at least to `margin`. -/
def read (style : Style) (margin : Nat) (text : List Char) :
    Except Malformed (List Char × List Char) := do
  let (header, rest) ← readIndicators text
  let rest ← skipLineEnd rest
  let known := header.increment.map (fun increment => margin - 1 + increment)
  let lead ← readLead known 0 0 rest
  let indent := known.getD (max (max lead.most margin) 1)
  readLines style header.chomping indent (rest.length + 1) [] false lead

end Steward.Yaml.Block
