/-!
# Tokens

The marks and words that a document consists of.  Blocks that are told by
indentation alone have tokens of their own, so that a sequence of tokens says
all that the layout says.
-/

namespace Steward.Yaml

/-- How a scalar is written. -/
inductive Style
  | plain
  | singleQuoted
  | doubleQuoted
  /-- As a block that keeps its line breaks. -/
  | literal
  /-- As a block whose line breaks are folded. -/
  | folded
  deriving DecidableEq, Repr

/-- The mark or word that a document consists of. -/
inductive Token
  /-- A directive for the version of the language. -/
  | version (major minor : Nat)
  /-- A directive that gives a tag handle its meaning. -/
  | tagDirective (handle start : String)
  | documentStart
  | documentEnd
  /-- The beginning of a sequence in block layout. -/
  | blockSequenceStart
  /-- The beginning of a mapping in block layout. -/
  | blockMappingStart
  /-- The end of either. -/
  | blockEnd
  /-- An opening bracket. -/
  | flowSequenceStart
  /-- A closing bracket. -/
  | flowSequenceEnd
  /-- An opening brace. -/
  | flowMappingStart
  /-- A closing brace. -/
  | flowMappingEnd
  /-- A dash before an entry. -/
  | blockEntry
  /-- A comma between entries. -/
  | flowEntry
  /-- The beginning of a key, marked or not. -/
  | key
  /-- A colon before a value. -/
  | value
  /-- A reference to an anchor. -/
  | alias (name : String)
  /-- A name for the node that follows. -/
  | anchor (name : String)
  /-- A tag for the node that follows. -/
  | tag (handle suffix : String)
  | scalar (style : Style) (text : String)
  /-- The end of the text. -/
  | streamEnd
  deriving DecidableEq, Repr

/-- Why a text is no document. -/
inductive Malformed
  /-- A character may not stand in a document. -/
  | character
  /-- No token begins with the character that is found. -/
  | noToken
  /-- A key that must be one has no colon on its line. -/
  | missingColon
  /-- An entry, key or value stands where none can begin. -/
  | misplaced
  /-- An anchor or alias has no name, or its name runs into something else. -/
  | anchorName
  | badTag
  | badDirective
  /-- A quoted scalar does not end. -/
  | openQuote
  /-- A quoted scalar runs over a mark between documents. -/
  | documentMarkInQuote
  /-- An escape is unknown or stands for no character. -/
  | badEscape
  /-- A block scalar has a header that cannot be read. -/
  | blockHeader
  /-- A tab stands where indentation must be spaces. -/
  | tabIndentation
  /-- A colon is followed by an indicator inside a flow collection. -/
  | flowColon
  /-- The tokens do not form one document. -/
  | outOfOrder
  /-- An alias names no anchor. -/
  | unknownAnchor
  /-- A value is not of the kind that is needed. -/
  | wrongKind
  | duplicateKey
  deriving DecidableEq, Repr

def Malformed.message : Malformed → String
  | character => "control characters are not allowed"
  | noToken => "found character that cannot start any token"
  | missingColon => "could not find expected ':'"
  | misplaced => "block entries, keys and values are not allowed in this context"
  | anchorName => "did not find expected alphabetic or numeric character"
  | badTag => "could not read a tag"
  | badDirective => "could not read a directive"
  | openQuote => "found unexpected end of stream"
  | documentMarkInQuote => "found unexpected document indicator"
  | badEscape => "found unknown escape character"
  | blockHeader => "did not find expected comment or line break"
  | tabIndentation => "found a tab character where an indentation space is expected"
  | flowColon => "found unexpected ':'"
  | outOfOrder => "did not find expected node content"
  | unknownAnchor => "unknown anchor"
  | wrongKind => "invalid type"
  | duplicateKey => "duplicate field"

end Steward.Yaml
