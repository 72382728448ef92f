import Steward.Settings.Basic
import Steward.Yaml.Node
import Steward.Yaml.Word

/-!
# Reading settings

Settings are a mapping of sections, and a section is a mapping from names to
values.  What is missing keeps its standard value, an unknown name is passed
over, and a known name may be given once.
-/

namespace Steward.Settings

open Yaml

/-! ## Values -/

/-- The scalar that a node stands for. -/
def scalar (root node : Node) : Except Malformed Scalar :=
  match root.resolved node with
  | .scalar _ scalar => .ok scalar
  | _ => .error .wrongKind

/-- The text of a scalar, however it is written. -/
def text (root node : Node) : Except Malformed String := do
  return (← scalar root node).text

def nullTag : String := "tag:yaml.org,2002:null"

def truthTag : String := "tag:yaml.org,2002:bool"

def numberTag : String := "tag:yaml.org,2002:int"

/-- Whether a scalar is written so that its words can mean something: plain, or as a literal block
with the tag of what is wanted. -/
def isOpen (tag : String) (scalar : Scalar) : Bool :=
  scalar.style == .plain || (scalar.style == .literal && scalar.tag == some tag)

/-- Whether a scalar stands for nothing. -/
def isNothing (scalar : Scalar) : Except Malformed Bool :=
  if scalar.style != .plain then .ok false
  else
    match scalar.tag with
    | none => .ok (scalar.text.isEmpty || Word.isNull scalar.text)
    | some tag =>
      if tag != nullTag then .ok false
      else if Word.isNull scalar.text then .ok true
      else .error .wrongKind

def optionalText (root node : Node) : Except Malformed (Option String) := do
  let scalar ← scalar root node
  return if ← isNothing scalar then none else some scalar.text

def truth (root node : Node) : Except Malformed Bool := do
  let scalar ← scalar root node
  match Word.truth? scalar.text with
  | some value => if isOpen truthTag scalar then .ok value else .error .wrongKind
  | none => .error .wrongKind

/-- The greatest number that can be set. -/
def mostNumber : Nat := 18446744073709551615

def number (root node : Node) : Except Malformed UInt64 := do
  let scalar ← scalar root node
  match Word.natUpTo? mostNumber scalar.text with
  | some n => if isOpen numberTag scalar then .ok (UInt64.ofNat n) else .error .wrongKind
  | none => .error .wrongKind

/-- The client that a word names. -/
def notaryToolNamed (name : String) : Except Malformed NotaryTool :=
  match [NotaryTool.notarytool, NotaryTool.altool].find? (fun tool => tool.name == name) with
  | some tool => .ok tool
  | none => .error .wrongKind

/-- A client, named by the text of a scalar or by a tag of its own on nothing. -/
def notaryTool (root node : Node) : Except Malformed NotaryTool := do
  let scalar ← scalar root node
  match scalar.tag.map String.toList with
  | some ('!' :: name) =>
    if scalar.style == .plain && (scalar.text.isEmpty || Word.isNull scalar.text) then
      notaryToolNamed (String.ofList name)
    else .error .wrongKind
  | _ => notaryToolNamed scalar.text

/-! ## Mappings -/

/-- The entries of the mapping that a node stands for.  A plain scalar without text is a mapping
without entries. -/
def entries (root node : Node) : Except Malformed (List (Node × Node)) :=
  match root.resolved node with
  | .mapping _ entries => .ok entries
  | .scalar _ scalar =>
    if scalar.style == .plain && scalar.text.isEmpty then .ok [] else .error .wrongKind
  | _ => .error .wrongKind

/-- A name and what its value changes. -/
abbrev Setter (σ : Type) := String × (Node → σ → Except Malformed σ)

/-- Sets what the entries of a mapping say; the names in `seen` have been set already. -/
def setAll (root : Node) (setters : List (Setter σ)) : (seen : List String) →
    List (Node × Node) → σ → Except Malformed σ
  | _, [], given => .ok given
  | seen, (key, value) :: rest, given => do
    let name ← text root key
    match setters.lookup name with
    | none => setAll root setters seen rest given
    | some set =>
      if seen.contains name then throw .duplicateKey
      setAll root setters (name :: seen) rest (← set value given)

/-- The mapping that a node stands for, on top of standard values. -/
def mapping (root : Node) (setters : List (Setter σ)) (standard : σ) (node : Node) :
    Except Malformed σ := do
  setAll root setters [] (← entries root node) standard

/-! ## Sections -/

def serviceSetters (root : Node) : List (Setter ServiceSection) := [
  ("name", fun node given => return { given with name := ⟨← text root node⟩ }),
  ("executable", fun node given => return { given with executable := ⟨← text root node⟩ }),
  ("config", fun node given =>
    return { given with config := (← optionalText root node).map Path.mk }),
  ("working_dir", fun node given =>
    return { given with workingDirectory := (← optionalText root node).map Path.mk }),
  ("log_dir", fun node given =>
    return { given with logDirectory := (← optionalText root node).map Path.mk }),
  ("user", fun node given => return { given with user := ← optionalText root node }),
  ("run_at_load", fun node given => return { given with runAtLoad := ← truth root node }),
  ("keep_alive", fun node given => return { given with keepAlive := ← truth root node }),
  ("throttle_interval_secs", fun node given =>
    return { given with throttleSeconds := ← number root node })]

def lifecycleSetters (root : Node) : List (Setter LifecycleSection) := [
  ("poll_interval_secs", fun node given => return { given with pollSeconds := ← number root node }),
  ("start_timeout_secs", fun node given =>
    return { given with startSeconds := ← number root node }),
  ("stop_timeout_secs", fun node given => return { given with stopSeconds := ← number root node }),
  ("restart_settle_secs", fun node given =>
    return { given with settleSeconds := ← number root node })]

def trustSetters (root : Node) : List (Setter TrustSection) := [
  ("identity", fun node given => return { given with identity := ← text root node }),
  ("bundle_id", fun node given => return { given with bundleId := ← text root node }),
  ("apple_id", fun node given => return { given with account := ← optionalText root node }),
  ("team_id", fun node given => return { given with team := ← optionalText root node }),
  ("password", fun node given => return { given with password := ← optionalText root node }),
  ("keychain_profile", fun node given =>
    return { given with profile := ← optionalText root node }),
  ("entitlements", fun node given =>
    return { given with entitlements := (← optionalText root node).map Path.mk }),
  ("notary_tool", fun node given => return { given with notaryTool := ← notaryTool root node }),
  ("poll_interval_secs", fun node given => return { given with pollSeconds := ← number root node }),
  ("timeout_secs", fun node given => return { given with timeoutSeconds := ← number root node })]

def setters (root : Node) : List (Setter Settings) := [
  ("service", fun node given => do
    let read ← mapping root (serviceSetters root) ServiceSection.standard node
    return { given with service := read }),
  ("lifecycle", fun node given => do
    let read ← mapping root (lifecycleSetters root) LifecycleSection.standard node
    return { given with lifecycle := read }),
  ("trust", fun node given => do
    let read ← mapping root (trustSetters root) TrustSection.standard node
    return { given with trust := read })]

/-- The settings in a tree. -/
def ofNode (root : Node) : Except Malformed Settings :=
  mapping root (setters root) Settings.standard root

/-- The settings in a text.  A text without a document sets nothing. -/
def parse (source : String) : Except Malformed Settings := do
  match ← document source with
  | none => return Settings.standard
  | some root => ofNode root

end Steward.Settings
