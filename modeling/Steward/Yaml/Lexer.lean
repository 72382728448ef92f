import Steward.Yaml.Property
import Steward.Yaml.Scalar.Block
import Steward.Yaml.Scalar.Plain
import Steward.Yaml.Scalar.Quoted

/-!
# From text to tokens

The lexer reads one token at a time and keeps what the layout has said so far:
the margins of the blocks it is in, and on each level of brackets whether a
key may have begun.  Whether something is a key shows only at the colon after
it; the token `key`, and the beginning of its block, are then put where it
began.
-/

namespace Steward.Yaml

/-- A node that becomes a key if a colon follows it. -/
structure KeyStart where
  /-- How many tokens came before it. -/
  tokens : Nat
  line : Nat
  column : Nat
  /-- Whether it must be a key, because the block it stands in is a mapping. -/
  required : Bool
  deriving DecidableEq, Repr

/-- A place in a text, and what the layout has said so far. -/
structure Lexer where
  /-- What is left of the text. -/
  rest : List Char
  line : Nat
  column : Nat
  /-- The tokens so far, the last first. -/
  tokens : List Token
  /-- The least column of what belongs to the block at hand: one more than that of the block, and
  nothing outside every block. -/
  margin : Nat
  /-- The margins of the blocks around it, the nearest first. -/
  outerMargins : List Nat
  /-- What may become a key at this level of brackets. -/
  keyStart : Option KeyStart
  /-- What may become a key at the levels around, the nearest first. -/
  outerKeyStarts : List (Option KeyStart)
  /-- Whether a key may begin here. -/
  keyAllowed : Bool
  finished : Bool

namespace Lexer

/-- The beginning of a text. -/
def start (text : List Char) : Lexer where
  rest := text
  line := 0
  column := 0
  tokens := []
  margin := 0
  outerMargins := []
  keyStart := none
  outerKeyStarts := []
  keyAllowed := true
  finished := false

/-- Whether the place is inside brackets or braces. -/
def inFlow (lexer : Lexer) : Bool :=
  !lexer.outerKeyStarts.isEmpty

/-! ## Moving and adding -/

/-- The place where `rest` is left of the text. -/
def moveTo (lexer : Lexer) (rest : List Char) : Lexer :=
  let passed := lexer.rest.take (lexer.rest.length - rest.length)
  { lexer with
    rest := rest
    line := lexer.line + breaksIn passed
    column := columnAfter lexer.column passed }

/-- The place some characters further on. -/
def skip (lexer : Lexer) (count : Nat) : Lexer :=
  lexer.moveTo (lexer.rest.drop count)

/-- The lexer with one more token. -/
def add (lexer : Lexer) (token : Token) : Lexer :=
  { lexer with tokens := token :: lexer.tokens }

/-- The lexer with tokens put in after the first `count`. -/
def insert (lexer : Lexer) (count : Nat) (tokens : List Token) : Lexer :=
  let later := lexer.tokens.length - count
  { lexer with
    tokens := lexer.tokens.take later ++ tokens.reverse ++ lexer.tokens.drop later }

/-- The lexer where a key may or may not begin. -/
def allowKey (lexer : Lexer) (allowed : Bool) : Lexer :=
  { lexer with keyAllowed := allowed }

/-! ## Blocks -/

/-- Ends the innermost of the given margins. -/
def endBlocks (column : Nat) : (margin : Nat) → (outer : List Nat) → Nat × List Nat × Nat
  | margin, [] => (margin, [], 0)
  | margin, next :: outer =>
    if column + 1 < margin then
      let (margin, outer, ended) := endBlocks column next outer
      (margin, outer, ended + 1)
    else (margin, next :: outer, 0)

/-- Ends the blocks that stand further to the right than a column. -/
def unroll (lexer : Lexer) (column : Nat) : Lexer :=
  if lexer.inFlow then lexer
  else
    let (margin, outer, ended) := endBlocks column lexer.margin lexer.outerMargins
    { lexer with
      margin := margin
      outerMargins := outer
      tokens := List.replicate ended .blockEnd ++ lexer.tokens }

def unrollAll (lexer : Lexer) : Lexer :=
  if lexer.inFlow then lexer
  else
    { lexer with
      margin := 0
      outerMargins := []
      tokens := List.replicate lexer.outerMargins.length .blockEnd ++ lexer.tokens }

/-- Whether a block begins with something in the given column. -/
def beginsBlock (lexer : Lexer) (column : Nat) : Bool :=
  !lexer.inFlow && lexer.margin < column + 1

/-- The lexer inside a new block in the given column. -/
def indent (lexer : Lexer) (column : Nat) : Lexer :=
  { lexer with margin := column + 1, outerMargins := lexer.margin :: lexer.outerMargins }

/-- Begins a block at the place if one begins here. -/
def roll (lexer : Lexer) (opening : Token) : Lexer :=
  if lexer.beginsBlock lexer.column then (lexer.indent lexer.column).add opening else lexer

/-! ## Keys -/

/-- Whether something can no longer become a key: a colon must follow on the same line and not
too far away. -/
def isStale (lexer : Lexer) (key : KeyStart) : Bool :=
  key.line < lexer.line || key.column + 1024 < lexer.column

/-- Gives up one possible key. -/
def dropStale (lexer : Lexer) (key : Option KeyStart) : Except Malformed (Option KeyStart) :=
  match key with
  | some start =>
    if lexer.isStale start then
      if start.required then .error .missingColon else .ok none
    else .ok key
  | none => .ok none

/-- Gives up what can no longer become a key, at every level. -/
def dropStaleKeys (lexer : Lexer) : Except Malformed Lexer := do
  let outer ← lexer.outerKeyStarts.mapM lexer.dropStale
  let key ← lexer.dropStale lexer.keyStart
  return { lexer with keyStart := key, outerKeyStarts := outer }

/-- Gives up what might have become a key at this level. -/
def forgetKey (lexer : Lexer) : Except Malformed Lexer :=
  match lexer.keyStart with
  | some key =>
    if key.required then .error .missingColon else .ok { lexer with keyStart := none }
  | none => .ok lexer

/-- Notes that a key may begin at the place. -/
def noteKey (lexer : Lexer) : Except Malformed Lexer :=
  if lexer.keyAllowed then do
    let forgotten ← lexer.forgetKey
    return { forgotten with keyStart := some {
      tokens := lexer.tokens.length
      line := lexer.line
      column := lexer.column
      required := !lexer.inFlow && lexer.margin == lexer.column + 1 } }
  else .ok lexer

/-! ## Between tokens -/

/-- What follows the spaces and comments of a line.  Tabs count as spaces where no key may
begin. -/
def skipSpaces (tabs : Bool) (text : List Char) : List Char :=
  let text := text.dropWhile (fun c => c == ' ' || (tabs && c == '\t'))
  if text.head? == some '#' then text.dropWhile (fun c => !isBreak c) else text

/-- Goes on to the next token. -/
def toToken : (fuel : Nat) → Lexer → Lexer
  | 0, lexer => lexer
  | fuel + 1, lexer =>
    let lexer := lexer.moveTo (skipSpaces (lexer.inFlow || !lexer.keyAllowed) lexer.rest)
    match lexer.rest with
    | c :: rest =>
      if isBreak c then
        let next := lexer.moveTo rest
        toToken fuel (if lexer.inFlow then next else next.allowKey true)
      else lexer
    | [] => lexer

/-! ## Tokens -/

/-- The end of the text. -/
def streamEnd (lexer : Lexer) : Except Malformed Lexer := do
  let lexer ← lexer.unrollAll.forgetKey
  return { (lexer.allowKey false).add .streamEnd with finished := true }

/-- A mark between documents. -/
def documentMark (lexer : Lexer) (token : Token) : Except Malformed Lexer := do
  let lexer ← lexer.unrollAll.forgetKey
  return ((lexer.allowKey false).skip 3).add token

/-- A directive. -/
def directive (lexer : Lexer) : Except Malformed Lexer := do
  let lexer ← lexer.unrollAll.forgetKey
  let (token, rest) ← readDirective (lexer.rest.drop 1)
  return ((lexer.allowKey false).moveTo rest).add token

/-- An opening bracket or brace. -/
def openFlow (lexer : Lexer) (token : Token) : Except Malformed Lexer := do
  let lexer ← lexer.noteKey
  let inner := { lexer with
    keyStart := none, outerKeyStarts := lexer.keyStart :: lexer.outerKeyStarts }
  return ((inner.allowKey true).skip 1).add token

/-- A closing bracket or brace. -/
def closeFlow (lexer : Lexer) (token : Token) : Except Malformed Lexer := do
  let lexer ← lexer.forgetKey
  let outer := match lexer.outerKeyStarts with
    | key :: keys => { lexer with keyStart := key, outerKeyStarts := keys }
    | [] => lexer
  return ((outer.allowKey false).skip 1).add token

/-- A comma. -/
def flowEntry (lexer : Lexer) : Except Malformed Lexer := do
  let lexer ← lexer.forgetKey
  return ((lexer.allowKey true).skip 1).add .flowEntry

/-- A dash before an entry. -/
def blockEntry (lexer : Lexer) : Except Malformed Lexer := do
  if !lexer.inFlow && !lexer.keyAllowed then throw .misplaced
  let lexer ← (lexer.roll .blockSequenceStart).forgetKey
  return ((lexer.allowKey true).skip 1).add .blockEntry

/-- A question mark before a key. -/
def markedKey (lexer : Lexer) : Except Malformed Lexer := do
  if !lexer.inFlow && !lexer.keyAllowed then throw .misplaced
  let lexer ← (lexer.roll .blockMappingStart).forgetKey
  return ((lexer.allowKey (!lexer.inFlow)).skip 1).add .key

/-- A colon before a value.  What may have become a key is one now. -/
def value (lexer : Lexer) : Except Malformed Lexer :=
  match lexer.keyStart with
  | some key =>
    let begins := lexer.beginsBlock key.column
    let rolled := if begins then lexer.indent key.column else lexer
    let marked := rolled.insert key.tokens
      (if begins then [.blockMappingStart, .key] else [.key])
    .ok ((({ marked with keyStart := none }.allowKey false).skip 1).add .value)
  | none => do
    if !lexer.inFlow && !lexer.keyAllowed then throw .misplaced
    let rolled := lexer.roll .blockMappingStart
    return ((rolled.allowKey (!lexer.inFlow)).skip 1).add .value

/-- An anchor or alias. -/
def anchor (lexer : Lexer) (token : String → Token) : Except Malformed Lexer := do
  let lexer ← lexer.noteKey
  let (name, rest) ← readAnchor (lexer.rest.drop 1)
  return ((lexer.allowKey false).moveTo rest).add (token name)

/-- A tag. -/
def tag (lexer : Lexer) : Except Malformed Lexer := do
  let lexer ← lexer.noteKey
  let (token, rest) ← readTag lexer.inFlow lexer.rest
  return ((lexer.allowKey false).moveTo rest).add token

/-- A literal or folded block. -/
def blockScalar (lexer : Lexer) (style : Style) : Except Malformed Lexer := do
  let lexer ← lexer.forgetKey
  let (text, rest) ← Block.read style lexer.margin (lexer.rest.drop 1)
  return ((lexer.allowKey true).moveTo rest).add (.scalar style (String.ofList text))

/-- A quoted scalar, given how its style is read. -/
def quotedScalar (lexer : Lexer) (style : Style)
    (read : List Char → Except Malformed (List Char × List Char)) : Except Malformed Lexer := do
  let lexer ← lexer.noteKey
  let (text, rest) ← read (lexer.rest.drop 1)
  return ((lexer.allowKey false).moveTo rest).add (.scalar style (String.ofList text))

/-- A plain scalar.  After one that runs over lines a key may begin. -/
def plainScalar (lexer : Lexer) : Except Malformed Lexer := do
  let lexer ← lexer.noteKey
  let reading ← Plain.read lexer.inFlow lexer.margin lexer.column lexer.rest
  return ((lexer.allowKey reading.broken).moveTo reading.rest).add
    (.scalar .plain (String.ofList reading.text))

/-- The characters that stand for something by themselves and begin no plain scalar. -/
def isIndicator (c : Char) : Bool :=
  "-?:,[]\x7b\x7d#&*!|>'\"%@\x60".toList.contains c

/-- Whether a plain scalar begins with a character and what follows it. -/
def startsPlain (inFlow : Bool) (c : Char) (rest : List Char) : Bool :=
  !(isGap c || isIndicator c) ||
    (c == '-' && !(rest.head?.any isSpace)) ||
    (!inFlow && (c == '?' || c == ':') && !atGap rest)

/-- Reads the token at the place, which is not at the end. -/
def token (lexer : Lexer) (c : Char) (rest : List Char) : Except Malformed Lexer :=
  if lexer.column == 0 && c == '%' then lexer.directive
  else if lexer.column == 0 && atDocumentMark (c :: rest) then
    lexer.documentMark (if c == '-' then .documentStart else .documentEnd)
  else if c == '[' then lexer.openFlow .flowSequenceStart
  else if c == '\x7b' then lexer.openFlow .flowMappingStart
  else if c == ']' then lexer.closeFlow .flowSequenceEnd
  else if c == '\x7d' then lexer.closeFlow .flowMappingEnd
  else if c == ',' then lexer.flowEntry
  else if c == '-' && atGap rest then lexer.blockEntry
  else if c == '?' && (lexer.inFlow || atGap rest) then lexer.markedKey
  else if c == ':' && (lexer.inFlow || atGap rest) then lexer.value
  else if c == '*' then lexer.anchor .alias
  else if c == '&' then lexer.anchor .anchor
  else if c == '!' then lexer.tag
  else if c == '|' && !lexer.inFlow then lexer.blockScalar .literal
  else if c == '>' && !lexer.inFlow then lexer.blockScalar .folded
  else if c == '\'' then lexer.quotedScalar .singleQuoted SingleQuoted.read
  else if c == '"' then lexer.quotedScalar .doubleQuoted DoubleQuoted.read
  else if startsPlain lexer.inFlow c rest then lexer.plainScalar
  else .error .noToken

/-- Goes on to the next token and reads it. -/
def step (lexer : Lexer) : Except Malformed Lexer := do
  let lexer ← (toToken (lexer.rest.length + 1) lexer).dropStaleKeys
  let lexer := lexer.unroll lexer.column
  match lexer.rest with
  | [] => lexer.streamEnd
  | c :: rest => lexer.token c rest

/-- Reads tokens up to the end. -/
def steps : (fuel : Nat) → Lexer → Except Malformed (List Token)
  | 0, _ => .error .noToken
  | fuel + 1, lexer =>
    if lexer.finished then .ok lexer.tokens.reverse
    else do steps fuel (← lexer.step)

end Lexer

/-- The text of a document without the mark of its encoding. -/
def withoutMark : List Char → List Char
  | c :: rest => if c == byteOrderMark then rest else c :: rest
  | [] => []

/-- The place before the first token.  One more mark of the encoding is passed over. -/
def Lexer.beginning (text : List Char) : Lexer :=
  let lexer := Lexer.start text
  if text.head? == some byteOrderMark then lexer.skip 1 else lexer

/-- The tokens of a text. -/
def tokens (text : List Char) : Except Malformed (List Token) :=
  let text := withoutMark text
  if text.all isAllowed then
    (Lexer.beginning (normalised text)).steps (text.length + 2)
  else .error .character

end Steward.Yaml
