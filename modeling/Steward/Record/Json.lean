import Steward.Text.Decimal

/-!
# Records for other programs

A record is a value in the notation of JSON.  It is written on one line, or
spread over lines with two spaces of indentation a level.
-/

namespace Steward

/-- A value of JSON.  Fields keep their order. -/
inductive Json
  | null
  | truth (value : Bool)
  | number (n : Int)
  | text (content : String)
  | list (items : List Json)
  | record (fields : List (String × Json))
  deriving Inhabited

namespace Json

instance : Coe String Json := ⟨text⟩

instance : Coe Bool Json := ⟨truth⟩

def nat (n : Nat) : Json := number (Int.ofNat n)

def texts (items : List String) : Json := list (items.map text)

/-- A value that may be absent. -/
def ofOption (form : β → Json) : Option β → Json
  | some value => form value
  | none => null

/-- A field that is left out where its value is absent. -/
def field? (name : String) (form : β → Json) : Option β → List (String × Json)
  | some value => [(name, form value)]
  | none => []

/-- A record with more fields. -/
def extend (json : Json) (more : List (String × Json)) : Json :=
  match json with
  | record fields => record (fields ++ more)
  | other => other

/-! ## Text -/

/-- A character between quotes. -/
def escaped (c : Char) : List Char :=
  match c with
  | '"' => ['\\', '"']
  | '\\' => ['\\', '\\']
  | '\n' => ['\\', 'n']
  | '\r' => ['\\', 'r']
  | '\t' => ['\\', 't']
  | c =>
    if c.toNat = 8 then ['\\', 'b']
    else if c.toNat = 12 then ['\\', 'f']
    else if c.toNat < 0x20 then '\\' :: 'u' :: (Text.hex 4 c.toNat).toList
    else [c]

/-- A text between quotes. -/
def quoted (content : String) : String :=
  String.ofList ('"' :: content.toList.flatMap escaped ++ ['"'])

mutual

/-- A value on one line. -/
def compact : Json → String
  | null => "null"
  | truth value => if value then "true" else "false"
  | number n => toString n
  | text content => quoted content
  | list items => "[" ++ String.intercalate "," (compactItems items) ++ "]"
  | record fields => "\x7b" ++ String.intercalate "," (compactFields fields) ++ "\x7d"

/-- Every value on a line of its own making. -/
def compactItems : List Json → List String
  | [] => []
  | item :: rest => compact item :: compactItems rest

/-- Every field on a line of its own making. -/
def compactFields : List (String × Json) → List String
  | [] => []
  | (name, value) :: rest => (quoted name ++ ":" ++ compact value) :: compactFields rest

end

/-- The beginning of a line at a level. -/
def lineStart (level : Nat) : String :=
  "\n" ++ String.ofList (List.replicate (2 * level) ' ')

/-- Parts on lines of their own between two brackets. -/
def spread (level : Nat) (opening closing : String) (parts : List String) : String :=
  if parts.isEmpty then opening ++ closing
  else
    opening ++ String.intercalate "," (parts.map (fun part => lineStart (level + 1) ++ part)) ++
      lineStart level ++ closing

mutual

/-- A value spread over lines, where its first line stands at a level. -/
def prettyAt (level : Nat) : Json → String
  | null => "null"
  | truth value => if value then "true" else "false"
  | number n => toString n
  | text content => quoted content
  | list items => spread level "[" "]" (prettyItems (level + 1) items)
  | record fields => spread level "\x7b" "\x7d" (prettyFields (level + 1) fields)

def prettyItems (level : Nat) : List Json → List String
  | [] => []
  | item :: rest => prettyAt level item :: prettyItems level rest

def prettyFields (level : Nat) : List (String × Json) → List String
  | [] => []
  | (name, value) :: rest =>
    (quoted name ++ ": " ++ prettyAt level value) :: prettyFields level rest

end

/-- A value spread over lines. -/
def pretty (json : Json) : String :=
  prettyAt 0 json

end Json

end Steward
