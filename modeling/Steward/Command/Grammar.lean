import Steward.Text.Decimal

/-!
# Grammars of command lines

A command line is read from left to right.  Words lead down a tree of
commands; options and operands belong to the level at which they stand.  An
option is given at most once a level, and its value follows it as the next
argument or after an equals sign.  After a lone double dash everything is an
operand.
-/

namespace Steward.CommandLine

/-- Why no command comes out of a command line. -/
inductive Stop
  /-- Help was asked for. -/
  | help
  | version
  | usage
  deriving DecidableEq, Repr

inductive Kind
  /-- It has no value. -/
  | flag
  /-- It has any text as its value. -/
  | text
  /-- Its value is a path, which is not empty. -/
  | path
  /-- Its value is a number. -/
  | count
  /-- It ends the reading. -/
  | ends (stop : Stop)
  deriving DecidableEq, Repr

/-- The greatest number that a command line may hold. -/
def mostCount : Nat := 18446744073709551615

/-- Whether a text is a value of a kind. -/
def Kind.accepts (value : String) : Kind → Bool
  | path => !value.isEmpty
  | count => (Text.natUpTo? mostCount value).isSome
  | _ => true

/-- A named option or operand. -/
abbrev Slot := String × Kind

/-- The values given at one level by name.  A flag is given with an empty value. -/
abbrev Given := List (String × String)

namespace Given

/-- Whether something is given under a name. -/
def has (given : Given) (name : String) : Bool :=
  (given.lookup name).isSome

/-- The number given under a name. -/
def count? (given : Given) (name : String) : Option Nat :=
  (given.lookup name).bind (Text.natUpTo? mostCount)

end Given

/-- A tree of commands. -/
inductive Grammar (β : Type)
  /-- A command: its options, its operands in order, and what their values make of it.  There is
  nothing to make if a value is missing. -/
  | command (options operands : List Slot) (build : Given → Option β)
  /-- A word in front of further commands. -/
  | group (options : List Slot) (commands : List (String × Grammar β))

namespace Grammar

def options : Grammar β → List Slot
  | command options _ _ => options
  | group options _ => options

def operands : Grammar β → List Slot
  | command _ operands _ => operands
  | group .. => []

/-- The command that a word leads to. -/
def below? (word : String) : Grammar β → Option (Grammar β)
  | command .. => none
  | group _ commands => commands.lookup word

/-- The word that asks for help on the words after it. -/
def helpWord : String := "help"

/-- Whether a word asks for help. -/
def asksHelp (word : String) : Grammar β → Bool
  | command .. => false
  | group .. => word == helpWord

/-- What asking for help on words comes to: each of them must lead down from the one before. -/
def explain : Grammar β → List String → Stop
  | _, [] => .help
  | grammar, word :: rest =>
    match grammar.below? word with
    | some below => explain below rest
    | none => if grammar.asksHelp word && rest.isEmpty then .help else .usage

end Grammar

/-! ## One level -/

/-- How far a level has been read. -/
structure Reading where
  /-- The values so far. -/
  given : Given
  /-- The operands to come. -/
  operands : List Slot
  /-- The option that waits for its value. -/
  awaiting : Option Slot
  /-- Whether everything that follows is an operand. -/
  literal : Bool

namespace Reading

/-- A level of which nothing has been read. -/
def start (grammar : Grammar β) : Reading := ⟨[], grammar.operands, none, false⟩

/-- The level with a value. -/
def take (reading : Reading) (slot : Slot) (value : String) : Except Stop Reading :=
  if reading.given.has slot.1 || !slot.2.accepts value then .error .usage
  else .ok { reading with given := (slot.1, value) :: reading.given, awaiting := none }

/-- The level with one more operand. -/
def takeOperand (reading : Reading) (value : String) : Except Stop Reading :=
  match reading.operands with
  | slot :: rest => { reading with operands := rest }.take slot value
  | [] => .error .usage

/-- The level with an option, whose value may be attached to it. -/
def takeOption (reading : Reading) (options : List Slot) (name : String)
    (attached : Option String) : Except Stop Reading :=
  match options.lookup name, attached with
  | some .flag, none => reading.take (name, .flag) ""
  | some (.ends stop), none => .error stop
  | some .flag, some _ | some (.ends _), some _ | none, _ => .error .usage
  | some kind, some value => reading.take (name, kind) value
  | some kind, none => .ok { reading with awaiting := some (name, kind) }

/-- The options that a single letter stands for. -/
def letters : List (Char × String) := [('h', "help"), ('V', "version")]

/-- The level with an argument that is neither a command nor the value of an option. -/
def takeArgument (reading : Reading) (options : List Slot) (argument : String) :
    Except Stop Reading :=
  match argument.toList with
  | ['-', '-'] => .ok { reading with literal := true }
  | '-' :: '-' :: written =>
    let name := String.ofList (written.takeWhile (· != '='))
    match written.dropWhile (· != '=') with
    | [] => reading.takeOption options name none
    | _ :: value => reading.takeOption options name (some (String.ofList value))
  | '-' :: letter :: _ =>
    match letters.lookup letter with
    | some name => reading.takeOption options name none
    | none => .error .usage
  | _ => reading.takeOperand argument

end Reading

/-- Whether an argument is written like an option, so that it is no value of another. -/
def isDashed (argument : String) : Bool :=
  match argument.toList with
  | '-' :: _ :: _ => true
  | _ => false

/-! ## All levels -/

/-- Where an argument leads. -/
inductive Step (β : Type)
  /-- On at the same level. -/
  | on (reading : Reading)
  /-- Down to a command. -/
  | down (grammar : Grammar β)
  /-- To help on the words that follow. -/
  | help

/-- Where the next argument leads. -/
def step (grammar : Grammar β) (reading : Reading) (argument : String) : Except Stop (Step β) :=
  if reading.literal then (reading.takeOperand argument).map Step.on
  else
    match reading.awaiting with
    | some slot =>
      if isDashed argument then .error .usage else (reading.take slot argument).map Step.on
    | none =>
      match grammar.below? argument with
      | some below => .ok (.down below)
      | none =>
        if grammar.asksHelp argument then .ok .help
        else (reading.takeArgument grammar.options argument).map Step.on

/-- What has been read when the arguments are used up. -/
def finish (grammar : Grammar β) (reading : Reading) : Except Stop β :=
  match grammar, reading.awaiting with
  | .command _ _ build, none =>
    match build reading.given with
    | some command => .ok command
    | none => .error .usage
  | _, _ => .error .usage

/-- Reads arguments from a level on. -/
def readFrom (grammar : Grammar β) (reading : Reading) : List String → Except Stop β
  | [] => finish grammar reading
  | argument :: rest =>
    match step grammar reading argument with
    | .error stop => .error stop
    | .ok (.on reading) => readFrom grammar reading rest
    | .ok (.down below) => readFrom below (Reading.start below) rest
    | .ok .help => .error (grammar.explain rest)

/-- Reads the arguments of a command line. -/
def read (grammar : Grammar β) (arguments : List String) : Except Stop β :=
  readFrom grammar (Reading.start grammar) arguments

end Steward.CommandLine
