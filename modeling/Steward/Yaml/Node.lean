import Steward.Yaml.Lexer

/-!
# Nodes

A document is a tree of scalars, sequences and mappings.  A node can carry an
anchor, and an alias stands for the node with that anchor; anchors are
numbered here, and a number belongs to the last node that carries it.
-/

namespace Steward.Yaml

/-- A scalar and what was said about it. -/
structure Scalar where
  tag : Option String
  style : Style
  /-- What it stands for. -/
  text : String
  deriving DecidableEq, Repr

/-- The tree of a document. -/
inductive Node
  /-- A word or a text. -/
  | scalar (anchor : Option Nat) (scalar : Scalar)
  | sequence (anchor : Option Nat) (items : List Node)
  | mapping (anchor : Option Nat) (entries : List (Node × Node))
  /-- Another node, by the number of its anchor. -/
  | alias (number : Nat)

namespace Node

/-! ## Anchors -/

mutual

/-- The last node of a tree that carries an anchor; an outer node comes before those inside. -/
def anchored? (number : Nat) : Node → Option Node
  | .scalar anchor word => if anchor = some number then some (.scalar anchor word) else none
  | .sequence anchor items =>
    (anchoredIn? number items).or
      (if anchor = some number then some (.sequence anchor items) else none)
  | .mapping anchor entries =>
    (anchoredAmong? number entries).or
      (if anchor = some number then some (.mapping anchor entries) else none)
  | .alias _ => none

/-- The last node in a list of trees that carries an anchor. -/
def anchoredIn? (number : Nat) : List Node → Option Node
  | [] => none
  | item :: rest => (anchoredIn? number rest).or (anchored? number item)

/-- The last node in the entries of a mapping that carries an anchor. -/
def anchoredAmong? (number : Nat) : List (Node × Node) → Option Node
  | [] => none
  | (key, value) :: rest =>
    (anchoredAmong? number rest).or ((anchored? number value).or (anchored? number key))

end

/-- The node that a node stands for in the tree `root`. -/
def resolved (root : Node) : Node → Node
  | .alias number => (root.anchored? number).getD (.alias number)
  | node => node

end Node

/-! ## From tokens to nodes -/

/-- The handles of tags and what they mean. -/
abbrev Handles := List (String × String)

/-- What has been read of a document. -/
structure Composer where
  /-- The tokens to come. -/
  tokens : List Token
  /-- The names of anchors and their numbers. -/
  anchors : List (String × Nat)

/-- A step that reads part of a document. -/
abbrev Compose := StateT Composer (Except Malformed)

namespace Compose

/-- The token to come. -/
def peek : Compose Token := do
  match (← get).tokens with
  | token :: _ => return token
  | [] => return .streamEnd

/-- Passes over the token to come. -/
def advance : Compose Unit :=
  modify (fun composer => { composer with tokens := composer.tokens.tail })

/-- Fails because the tokens are out of order. -/
def refuse : Compose β := throw .outOfOrder

/-- The number for a new anchor: how many names there are.  A name that is used again changes its
number. -/
def define (name : String) : Compose Nat := do
  let composer ← get
  let number := composer.anchors.length
  set { composer with
    anchors := (name, number) :: composer.anchors.filter (fun anchor => anchor.1 != name) }
  return number

/-- The number of an anchor. -/
def refer (name : String) : Compose Nat := do
  match (← get).anchors.lookup name with
  | some number => return number
  | none => throw .unknownAnchor

/-- The anchor and the tag in front of a node. -/
structure Properties where
  anchor : Option String
  /-- The handle and the suffix of the tag. -/
  tag : Option (String × String)

def anchor? : Compose (Option String) := do
  match ← peek with
  | .anchor name =>
    advance
    return some name
  | _ => return none

def tag? : Compose (Option (String × String)) := do
  match ← peek with
  | .tag handle suffix =>
    advance
    return some (handle, suffix)
  | _ => return none

/-- Reads an anchor and a tag in either order. -/
def properties : Compose Properties := do
  match ← anchor? with
  | some name => return ⟨some name, ← tag?⟩
  | none =>
    match ← tag? with
    | some tag => return ⟨← anchor?, some tag⟩
    | none => return ⟨none, none⟩

/-- The text of a tag. -/
def tagText (handles : Handles) : Option (String × String) → Compose (Option String)
  | none => return none
  | some (handle, suffix) =>
    if handle.isEmpty then return some suffix
    else
      match handles.lookup handle with
      | some start => return some (start ++ suffix)
      | none => throw .badTag

/-- The number of an anchor that is given. -/
def defineAll : Option String → Compose (Option Nat)
  | some name => return some (← define name)
  | none => return none

/-- The node of a missing value. -/
def empty : Node := .scalar none ⟨none, .plain, ""⟩

/-- Where a node stands. -/
inductive Place
  | block
  /-- In block layout as a key or value of a mapping, where a sequence need not be indented. -/
  | entry
  | flow
  deriving DecidableEq, Repr

/-- The tag as a scalar keeps it: the tag `!` says nothing. -/
def kept (tag : Option String) : Option String :=
  tag.filter (fun text => text != "!")

mutual

def node (handles : Handles) : (fuel : Nat) → Place → Compose Node
  | 0, _ => refuse
  | fuel + 1, place => do
    match ← peek with
    | .alias name =>
      advance
      return .alias (← refer name)
    | _ =>
      let given ← properties
      let tag ← tagText handles given.tag
      match ← peek, place with
      | .scalar style text, _ =>
        advance
        return .scalar (← defineAll given.anchor) ⟨kept tag, style, text⟩
      | .flowSequenceStart, _ =>
        advance
        let number ← defineAll given.anchor
        return .sequence number (← flowSequence handles fuel true)
      | .flowMappingStart, _ =>
        advance
        let number ← defineAll given.anchor
        return .mapping number (← flowMapping handles fuel true)
      | .blockEntry, .entry =>
        let number ← defineAll given.anchor
        return .sequence number (← looseSequence handles fuel)
      | .blockSequenceStart, .block | .blockSequenceStart, .entry =>
        advance
        let number ← defineAll given.anchor
        return .sequence number (← blockSequence handles fuel)
      | .blockMappingStart, .block | .blockMappingStart, .entry =>
        advance
        let number ← defineAll given.anchor
        return .mapping number (← blockMapping handles fuel)
      | _, _ =>
        if given.anchor.isSome || given.tag.isSome then
          return .scalar (← defineAll given.anchor) ⟨tag, .plain, ""⟩
        else refuse

/-- Reads a node unless the token to come is one of those that can follow it. -/
def optional (handles : Handles) : (fuel : Nat) → Place → List Token → Compose Node
  | 0, _, _ => refuse
  | fuel + 1, place, enders => do
    if (← peek) ∈ enders then return empty else node handles fuel place

def blockSequence (handles : Handles) : (fuel : Nat) → Compose (List Node)
  | 0 => refuse
  | fuel + 1 => do
    match ← peek with
    | .blockEntry =>
      advance
      let item ← optional handles fuel .block [.blockEntry, .blockEnd]
      return item :: (← blockSequence handles fuel)
    | .blockEnd =>
      advance
      return []
    | _ => refuse

/-- Reads the entries of a sequence that is not indented.  It has no token for its end. -/
def looseSequence (handles : Handles) : (fuel : Nat) → Compose (List Node)
  | 0 => refuse
  | fuel + 1 => do
    match ← peek with
    | .blockEntry =>
      advance
      let item ← optional handles fuel .block [.blockEntry, .key, .value, .blockEnd]
      return item :: (← looseSequence handles fuel)
    | _ => return []

/-- Reads the entries of a mapping in block layout. -/
def blockMapping (handles : Handles) : (fuel : Nat) → Compose (List (Node × Node))
  | 0 => refuse
  | fuel + 1 => do
    match ← peek with
    | .key =>
      advance
      let key ← optional handles fuel .entry [.key, .value, .blockEnd]
      let value ← blockValue handles fuel
      return (key, value) :: (← blockMapping handles fuel)
    | .blockEnd =>
      advance
      return []
    | _ => refuse

def blockValue (handles : Handles) : (fuel : Nat) → Compose Node
  | 0 => refuse
  | fuel + 1 => do
    match ← peek with
    | .value =>
      advance
      optional handles fuel .entry [.key, .value, .blockEnd]
    | _ => return empty

/-- Reads the entries of a sequence in brackets. -/
def flowSequence (handles : Handles) : (fuel : Nat) → (first : Bool) → Compose (List Node)
  | 0, _ => refuse
  | fuel + 1, first => do
    match ← peek with
    | .flowSequenceEnd =>
      advance
      return []
    | token =>
      if !first then
        if token ≠ .flowEntry then refuse
        advance
      match ← peek with
      | .flowSequenceEnd =>
        advance
        return []
      | .key =>
        advance
        let entry ← flowPair handles fuel
        return .mapping none [entry] :: (← flowSequence handles fuel false)
      | _ =>
        let item ← node handles fuel .flow
        return item :: (← flowSequence handles fuel false)

/-- Reads a key and its value that stand as one entry in brackets.  Where the key is missing, the
token in its place is passed over. -/
def flowPair (handles : Handles) : (fuel : Nat) → Compose (Node × Node)
  | 0 => refuse
  | fuel + 1 => do
    let missing := (← peek) ∈ [Token.value, .flowEntry, .flowSequenceEnd]
    let key ← if missing then
        advance
        pure empty
      else node handles fuel .flow
    match ← peek with
    | .value =>
      advance
      let value ← optional handles fuel .flow [.flowEntry, .flowSequenceEnd]
      return (key, value)
    | _ => return (key, empty)

/-- Reads the entries of a mapping in braces. -/
def flowMapping (handles : Handles) : (fuel : Nat) → (first : Bool) →
    Compose (List (Node × Node))
  | 0, _ => refuse
  | fuel + 1, first => do
    match ← peek with
    | .flowMappingEnd =>
      advance
      return []
    | token =>
      if !first then
        if token ≠ .flowEntry then refuse
        advance
      match ← peek with
      | .flowMappingEnd =>
        advance
        return []
      | .key =>
        advance
        let key ← optional handles fuel .flow [.value, .flowEntry, .flowMappingEnd]
        let value ← flowValue handles fuel
        return (key, value) :: (← flowMapping handles fuel false)
      | _ =>
        let key ← node handles fuel .flow
        return (key, empty) :: (← flowMapping handles fuel false)

def flowValue (handles : Handles) : (fuel : Nat) → Compose Node
  | 0 => refuse
  | fuel + 1 => do
    match ← peek with
    | .value =>
      advance
      optional handles fuel .flow [.flowEntry, .flowMappingEnd]
    | _ => return empty

end

/-! ## Documents -/

/-- The handles that need no directive. -/
def standardHandles : Handles := [("!", "!"), ("!!", "tag:yaml.org,2002:")]

/-- Reads the directives at the head of a document.  The version may be given once, and each
handle once. -/
def directives : (fuel : Nat) → (versioned : Bool) → Handles → Compose Handles
  | 0, _, handles => return handles
  | fuel + 1, versioned, handles => do
    match ← peek with
    | .version major minor =>
      if versioned || major != 1 || (minor != 1 && minor != 2) then throw .badDirective
      advance
      directives fuel true handles
    | .tagDirective handle start =>
      if (handles.lookup handle).isSome then throw .badDirective
      advance
      directives fuel versioned (handles ++ [(handle, start)])
    | _ => return handles

/-- Passes over marks that end documents. -/
def skipEnds : (fuel : Nat) → Compose Unit
  | 0 => return
  | fuel + 1 => do
    if (← peek) = .documentEnd then
      advance
      skipEnds fuel

/-- Whether a token belongs to the head of a document. -/
def isHead : Token → Bool
  | .version .. | .tagDirective .. | .documentStart => true
  | _ => false

/-- Whether a document ends or another begins where its node might stand. -/
def isOver : Token → Bool
  | .documentEnd | .streamEnd => true
  | token => isHead token

/-- Reads the one document of a text; none if there is nothing in it. -/
def document (fuel : Nat) : Compose (Option Node) := do
  let first ← peek
  if first = .streamEnd then return none
  let root ← if isHead first then do
      let own ← directives fuel false []
      if (← peek) ≠ .documentStart then refuse
      advance
      if isOver (← peek) then pure empty else node (own ++ standardHandles) fuel .block
    else node standardHandles fuel .block
  skipEnds fuel
  if (← peek) ≠ .streamEnd then refuse
  return some root

end Compose

/-- The tree of the one document in a text; none if there is nothing in it. -/
def document (text : String) : Except Malformed (Option Node) := do
  let tokens ← tokens text.toList
  let (root, _) ← (Compose.document (4 * tokens.length + 8)).run ⟨tokens, []⟩
  return root

end Steward.Yaml
