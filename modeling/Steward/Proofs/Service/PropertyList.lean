import Steward.Proofs.Text.Digits
import Steward.Proofs.Text.Markup
import Steward.Service.Plist

/-!
# Property lists that are read

A reader of markup that knows nothing of services recovers from a property
list everything that was written into it.  Every entry of the outer dictionary
is shown by its own piece of text, whatever stands around it, because no value
holds a character that could begin a tag or an entity once it is escaped.  So
the tags of the text depend on the shape of the service only: how many
arguments it has, when it is started and whether it has a user.
-/

namespace Steward.Plist

open Markup

/-! ## Reading -/

/-- The text of an element that holds no other. -/
def leaf? (name : String) : Element → Option String
  | .node named said [] => if named = name.toList then some (String.ofList said) else none
  | _ => none

def truth? : Element → Option Bool
  | .node name [] [] =>
    if name = "true".toList then some true
    else if name = "false".toList then some false
    else none
  | _ => none

def number? (element : Element) : Option Nat :=
  (leaf? "integer" element).bind (fun digits => Text.numeral? 10 digits.toList)

/-- What stands in an element that holds others, with nothing but blanks around them. -/
def held? (name : String) : Element → Option (List Element)
  | .node named said children =>
    if named = name.toList ∧ said.all Text.isBlank then some children else none

def strings? (element : Element) : Option (List String) :=
  (held? "array" element).bind (fun children => children.mapM (leaf? "string"))

/-- Keys with the elements behind them. -/
def entries? : List Element → Option (List (String × Element))
  | [] => some []
  | [_] => none
  | key :: value :: rest => do
    let key ← leaf? "key" key
    let rest ← entries? rest
    return (key, value) :: rest

def dictionary? (element : Element) : Option (List (String × Element)) :=
  (held? "dict" element).bind entries?

/-- Whether a service is started again: after a failed exit, or never. -/
def keepAlive? (element : Element) : Option Bool :=
  match dictionary? element with
  | some [("SuccessfulExit", value)] => if truth? value = some false then some true else none
  | some _ => none
  | none => if truth? element = some false then some false else none

/-- What a property list says about a service. -/
structure Content where
  label : String
  arguments : List String
  workingDirectory : String
  runAtLoad : Bool
  /-- Whether the service is started again after a failed exit. -/
  keepAlive : Bool
  throttleSeconds : Nat
  stdoutPath : String
  stderrPath : String
  user : Option String
  deriving DecidableEq, Repr

def content? (entries : List (String × Element)) : Option Content := do
  let label ← (entries.lookup "Label").bind (leaf? "string")
  let arguments ← (entries.lookup "ProgramArguments").bind strings?
  let workingDirectory ← (entries.lookup "WorkingDirectory").bind (leaf? "string")
  let runAtLoad ← (entries.lookup "RunAtLoad").bind truth?
  let keepAlive ← (entries.lookup "KeepAlive").bind keepAlive?
  let throttleSeconds ← (entries.lookup "ThrottleInterval").bind number?
  let stdoutPath ← (entries.lookup "StandardOutPath").bind (leaf? "string")
  let stderrPath ← (entries.lookup "StandardErrorPath").bind (leaf? "string")
  let user ← match entries.lookup "UserName" with
    | none => some none
    | some element => (leaf? "string" element).map some
  return ⟨label, arguments, workingDirectory, runAtLoad, keepAlive, throttleSeconds, stdoutPath,
    stderrPath, user⟩

/-- What a text says about a service, if it is a property list that does. -/
def read (text : String) : Option Content := do
  let document ← parse text
  let [plist] ← held? "" document.content | none
  let [dictionary] ← held? "plist" plist | none
  let entries ← dictionary? dictionary
  content? entries

/-! ## Elements that are written -/

/-- A text that puts an element into whatever it stands in, and has the given tags. -/
def Shows (text : String) (tags : List String) (shown : Element) : Prop :=
  ∀ element, Turns text.toList tags element (element.holding shown)

/-- An element that holds text only. -/
def leaf (name text : String) : Element :=
  .node name.toList text.toList []

@[simp]
theorem leaf?_leaf (name text : String) : leaf? name (leaf name text) = some text := by
  simp [leaf?, leaf]

theorem stands_escapeChar (c : Char) : Turns.Stands (escapeChar c) c := by
  unfold escapeChar
  split
  case h_1 => exact @Turns.stands_entity "amp".toList _ (by decide) rfl
  case h_2 => exact @Turns.stands_entity "lt".toList _ (by decide) rfl
  case h_3 => exact @Turns.stands_entity "gt".toList _ (by decide) rfl
  case h_4 => exact @Turns.stands_entity "quot".toList _ (by decide) rfl
  case h_5 => exact @Turns.stands_entity "apos".toList _ (by decide) rfl
  case h_6 noAmpersand noOpening _ _ _ => exact Turns.stands_self noOpening noAmpersand

/-- An escaped text is read as it was, whatever it looks like. -/
theorem turns_escape (raw : String) (element : Element) :
    Turns (escape raw).toList [] element (element.saying raw.toList) := by
  rw [escape, String.toList_ofList]
  exact Turns.stands_all (fun c _ => stands_escapeChar c) element

/-- Text between the tags of an element. -/
def between (name inside : String) : String :=
  "<" ++ name ++ ">" ++ inside ++ "</" ++ name ++ ">"

theorem shows_between {name inside : String} {tags : List String} {shown : Element}
    (isName : Tag.IsName name.toList) (named : shown.name = name.toList)
    (turns : Turns inside.toList tags (.empty name.toList) shown) :
    Shows (between name inside) (name :: (tags ++ ["/" ++ name])) shown := by
  intro element
  have turned := Turns.between isName named turns element
  have closing : String.ofList ('/' :: name.toList) = "/" ++ name := by
    rw [← String.toList_inj, String.toList_append, String.toList_ofList]
    rfl
  rw [String.ofList_toList, closing] at turned
  have text : (between name inside).toList =
      Tag.written name.toList ++ (inside.toList ++ Tag.written ('/' :: name.toList)) := by
    simp [between, Tag.written]
  rw [text]
  exact turned

/-- The tag of an element in which nothing stands. -/
theorem shows_empty {tag name : String} (whole : Tag.IsWhole tag.toList)
    (isEmpty : Tag.ofChars tag.toList = .empty name.toList) :
    Shows ("<" ++ tag ++ ">") [tag] (.empty name.toList) := by
  intro element
  have turned := Turns.empty tag.toList whole isEmpty element
  rw [String.ofList_toList] at turned
  have text : ("<" ++ tag ++ ">").toList = Tag.written tag.toList := by
    simp [Tag.written]
  rw [text]
  exact turned

theorem shows_leaf {name text : String} (isName : Tag.IsName name.toList)
    (plain : IsPlain text.toList) :
    Shows (between name text) [name, "/" ++ name] (leaf name text) :=
  shows_between isName rfl (Turns.plain text.toList plain (.empty name.toList))

theorem stringElement_eq (value : String) :
    stringElement value = between "string" (escape value) := by
  simp [← String.toList_inj, stringElement, between]

theorem shows_string (value : String) :
    Shows (stringElement value) ["string", "/string"] (leaf "string" value) := by
  rw [stringElement_eq]
  exact shows_between (by decide) rfl (turns_escape value (.empty "string".toList))

theorem shows_truth (value : Bool) :
    Shows (truth value) [if value then "true/" else "false/"]
      (.empty (if value then "true" else "false").toList) := by
  cases value with
  | true => exact @shows_empty "true/" "true" (by decide) (by decide)
  | false => exact @shows_empty "false/" "false" (by decide) (by decide)

/-- A number is written in digits, in which no tag begins. -/
theorem isPlain_toString (n : Nat) : IsPlain (toString n).toList := by
  intro c member
  have digit : c.isDigit = true := Text.isDigit_of_mem_toString member
  constructor
  · rintro rfl
    exact absurd digit (by decide)
  · rintro rfl
    exact absurd digit (by decide)

theorem shows_number (n : Nat) :
    Shows ("<integer>" ++ toString n ++ "</integer>") ["integer", "/integer"]
      (leaf "integer" (toString n)) := by
  have text : "<integer>" ++ toString n ++ "</integer>" = between "integer" (toString n) := by
    simp [← String.toList_inj, between]
  rw [text]
  exact shows_leaf (by decide) (isPlain_toString n)

/-! ## Entries of a dictionary -/

/-- A key with the element behind it, and how the element is written. -/
structure Entry where
  key : String
  text : String
  tags : List String
  value : Element
  plain : IsPlain key.toList
  shows : Shows text tags value

namespace Entry

/-- The elements of an entry. -/
def elements (entry : Entry) : List Element :=
  [leaf "key" entry.key, entry.value]

/-- The tags of an entry, those of its key first. -/
def allTags (entry : Entry) : List String :=
  "key" :: "/key" :: entry.tags

/-- The layout around the elements of an entry. -/
def layout : List Char :=
  [' ', ' ', '\n', ' ', ' ', '\n']

theorem turns_pair (entry : Entry) (name said : List Char) (children : List Element) :
    Turns (pair entry.key entry.text).toList entry.allTags (.node name said children)
      (.node name (said ++ layout) (children ++ entry.elements)) := by
  have text : (pair entry.key entry.text).toList = "  ".toList ++
      ((between "key" entry.key).toList ++
        ("\n  ".toList ++ (entry.text.toList ++ "\n".toList))) := by
    simp [pair, between]
  have key : Shows (between "key" entry.key) ["key", "/key"] (leaf "key" entry.key) :=
    shows_leaf (by decide) entry.plain
  have turns := (Turns.plain "  ".toList (by decide) (.node name said children)).append
    ((key _).append ((Turns.plain "\n  ".toList (by decide) _).append
      ((entry.shows _).append (Turns.plain "\n".toList (by decide) _))))
  rw [text]
  simpa [Element.saying, Element.holding, allTags, elements, layout] using turns

/-- Entries one after the other. -/
theorem turns_pairs (entries : List Entry) (name said : List Char) (children : List Element) :
    Turns (entries.flatMap (fun entry => (pair entry.key entry.text).toList))
      (entries.flatMap allTags) (.node name said children)
      (.node name (said ++ entries.flatMap (fun _ => layout))
        (children ++ entries.flatMap elements)) := by
  induction entries generalizing said children with
  | nil =>
      simp only [List.flatMap_nil, List.append_nil]
      exact Turns.nil _
  | cons entry entries inductionHypothesis =>
      have first := entry.turns_pair name said children
      have rest := inductionHypothesis (said ++ layout) (children ++ entry.elements)
      simp only [List.append_assoc] at rest
      exact first.append rest

theorem entries?_elements (entries : List Entry) :
    entries? (entries.flatMap elements) =
      some (entries.map (fun entry => (entry.key, entry.value))) := by
  induction entries with
  | nil => rfl
  | cons entry entries inductionHypothesis =>
      simp [elements, entries?, inductionHypothesis]

end Entry

/-! ## Elements that hold others -/

/-- The elements of the arguments, one on a line. -/
def arrayElement (values : List String) : Element :=
  .node "array".toList ("\n".toList ++ (values.flatMap (fun _ => "    \n".toList) ++ "  ".toList))
    (values.map (leaf "string"))

/-- The tags of some arguments. -/
def stringTags (count : Nat) : List String :=
  (List.replicate count ["string", "/string"]).flatten

theorem turns_strings (values : List String) (name said : List Char) (children : List Element) :
    Turns (values.flatMap (fun value => ("    " ++ stringElement value ++ "\n").toList))
      (stringTags values.length) (.node name said children)
      (.node name (said ++ values.flatMap (fun _ => "    \n".toList))
        (children ++ values.map (leaf "string"))) := by
  induction values generalizing said children with
  | nil =>
      simp only [List.flatMap_nil, List.map_nil, List.append_nil]
      exact Turns.nil _
  | cons value values inductionHypothesis =>
      have text : ("    " ++ stringElement value ++ "\n").toList =
          "    ".toList ++ ((stringElement value).toList ++ "\n".toList) := by
        simp
      have first := (Turns.plain "    ".toList (by decide) (.node name said children)).append
        ((shows_string value _).append (Turns.plain "\n".toList (by decide) _))
      have rest := inductionHypothesis (said ++ "    \n".toList) (children ++ [leaf "string" value])
      rw [← text] at first
      simp only [List.append_assoc] at rest
      simp only [Element.saying, Element.holding, List.append_assoc] at first
      exact first.append rest

theorem shows_array (values : List String) :
    Shows (array values) ("array" :: (stringTags values.length ++ ["/array"]))
      (arrayElement values) := by
  have text : array values = between "array" ("\n" ++
      String.join (values.map (fun value => "    " ++ stringElement value ++ "\n")) ++ "  ") := by
    simp [← String.toList_inj, array, between]
  have inside := (Turns.plain "\n".toList (by decide) (.empty "array".toList)).append
    ((turns_strings values _ _ _).append (Turns.plain "  ".toList (by decide) _))
  rw [text]
  refine shows_between (by decide) rfl ?_
  simpa [arrayElement, Element.empty, Element.saying, List.flatMap_map] using inside

/-- What says when a service is started again. -/
def keepAliveElement (value : Bool) : Element :=
  if value then
    .node "dict".toList "\n    \n    \n  ".toList
      [leaf "key" "SuccessfulExit", .empty "false".toList]
  else .empty "false".toList

def keepAliveTags (value : Bool) : List String :=
  if value then ["dict", "key", "/key", "false/", "/dict"] else ["false/"]

theorem shows_keepAlive (value : Bool) :
    Shows (keepAlive value) (keepAliveTags value) (keepAliveElement value) := by
  cases value with
  | false => exact shows_truth false
  | true =>
      have text : keepAlive true = between "dict"
          ("\n    " ++ between "key" "SuccessfulExit" ++ "\n    " ++ truth false ++ "\n  ") := by
        simp [keepAlive, between, truth]
      have key : Shows (between "key" "SuccessfulExit") ["key", "/key"]
          (leaf "key" "SuccessfulExit") :=
        shows_leaf (by decide) (by decide)
      have inside := (Turns.plain "\n    ".toList (by decide) (.empty "dict".toList)).append
        ((key _).append ((Turns.plain "\n    ".toList (by decide) _).append
          ((shows_truth false _).append (Turns.plain "\n  ".toList (by decide) _))))
      have turned : Shows (keepAlive true)
          ("dict" :: (["key", "/key", "false/"] ++ ["/" ++ "dict"])) (keepAliveElement true) := by
        rw [text]
        refine shows_between (by decide) rfl ?_
        simpa [keepAliveElement, Element.empty, Element.saying, Element.holding] using inside
      exact turned

/-! ## The document -/

namespace Entry

def string (key value : String) (plain : IsPlain key.toList) : Entry :=
  ⟨key, stringElement value, ["string", "/string"], leaf "string" value, plain, shows_string value⟩

end Entry

/-- The entry of the user, if there is one. -/
def userEntry (user : Option String) : List Entry :=
  user.toList.map (fun user => .string "UserName" user (by decide))

/-- The entries that every service has. -/
def commonEntries (descriptor : Descriptor) : List Entry :=
  [.string "Label" descriptor.name.text (by decide),
    ⟨"ProgramArguments", array descriptor.arguments, _, _, by decide, shows_array _⟩,
    .string "WorkingDirectory" descriptor.workingDirectory.text (by decide),
    ⟨"RunAtLoad", truth descriptor.restart.runAtLoad, _, _, by decide, shows_truth _⟩,
    ⟨"KeepAlive", keepAlive descriptor.restart.keepAlive, _, _, by decide, shows_keepAlive _⟩,
    ⟨"ThrottleInterval", _, _, _, by decide, shows_number descriptor.restart.throttleSeconds.toNat⟩,
    .string "StandardOutPath" descriptor.stdoutPath.text (by decide),
    .string "StandardErrorPath" descriptor.stderrPath.text (by decide)]

def entries (descriptor : Descriptor) : List Entry :=
  commonEntries descriptor ++ userEntry descriptor.user

/-- What a service is, as its property list says it. -/
def content (descriptor : Descriptor) : Content where
  label := descriptor.name.text
  arguments := descriptor.arguments
  workingDirectory := descriptor.workingDirectory.text
  runAtLoad := descriptor.restart.runAtLoad
  keepAlive := descriptor.restart.keepAlive
  throttleSeconds := descriptor.restart.throttleSeconds.toNat
  stdoutPath := descriptor.stdoutPath.text
  stderrPath := descriptor.stderrPath.text
  user := descriptor.user

/-- The element of a service. -/
def dictionaryElement (descriptor : Descriptor) : Element :=
  .node "dict".toList ("\n".toList ++ (entries descriptor).flatMap (fun _ => Entry.layout))
    ((entries descriptor).flatMap Entry.elements)

def xmlTag : String := "?xml version=\"1.0\" encoding=\"UTF-8\"?"

def doctypeTag : String :=
  "!DOCTYPE plist PUBLIC \"-//Apple//DTD PLIST 1.0//EN\" " ++
    "\"http://www.apple.com/DTDs/PropertyList-1.0.dtd\""

def plistTag : String := "plist version=\"1.0\""

theorem toList_header : header.toList =
    Tag.written xmlTag.toList ++ ("\n".toList ++ (Tag.written doctypeTag.toList ++
      ("\n".toList ++ (Tag.written plistTag.toList ++ "\n".toList)))) := by
  have tagged : header = "<" ++ xmlTag ++ ">" ++ "\n" ++ "<" ++ doctypeTag ++ ">" ++ "\n" ++
      "<" ++ plistTag ++ ">" ++ "\n" := rfl
  simp [tagged, Tag.written]

/-- The entries of a service as they are written. -/
def body (descriptor : Descriptor) : String :=
  String.join ((entries descriptor).map fun entry => pair entry.key entry.text)

theorem shows_dictionary (descriptor : Descriptor) :
    Shows (between "dict" ("\n" ++ body descriptor))
      ("dict" :: ((entries descriptor).flatMap Entry.allTags ++ ["/dict"]))
      (dictionaryElement descriptor) := by
  have text : ("\n" ++ body descriptor).toList = "\n".toList ++
      (entries descriptor).flatMap (fun entry => (pair entry.key entry.text).toList) := by
    simp [body, List.flatMap_map]
  have inside := (Turns.plain_empty "dict".toList "\n".toList (by decide)).append
    (Entry.turns_pairs (entries descriptor) "dict".toList "\n".toList [])
  rw [← text, List.nil_append, List.nil_append] at inside
  exact shows_between (by decide) rfl inside

theorem render_eq_body (descriptor : Descriptor) :
    render descriptor = header ++ ("<dict>\n" ++ (body descriptor ++ "</dict>\n</plist>\n")) := by
  cases named : descriptor.user with
  | none =>
      simp only [render, body, entries, commonEntries, userEntry, Entry.string, named,
        Option.toList_none, List.map_nil, List.append_nil, List.map_cons, String.join_cons,
        String.join_nil, String.append_empty, String.append_assoc]
  | some user =>
      simp only [render, body, entries, commonEntries, userEntry, Entry.string, named,
        Option.toList_some, List.map_cons, List.map_nil, List.cons_append, List.nil_append,
        String.join_cons, String.join_nil, String.append_empty, String.append_assoc]

/-- Everything that the outer dictionary stands in. -/
def plistElement (descriptor : Descriptor) : Element :=
  .node "plist".toList ("\n".toList ++ "\n".toList) [dictionaryElement descriptor]

/-- The tags of a property list with a number of arguments, which says whether the service is
started right away and again, and may have a user. -/
def outline (arguments : Nat) (runAtLoad keepAlive hasUser : Bool) : List String :=
  [xmlTag, doctypeTag, plistTag, "dict"] ++
  ["key", "/key", "string", "/string"] ++
  (["key", "/key", "array"] ++ stringTags arguments ++ ["/array"]) ++
  ["key", "/key", "string", "/string"] ++
  ["key", "/key", if runAtLoad then "true/" else "false/"] ++
  (["key", "/key"] ++ keepAliveTags keepAlive) ++
  ["key", "/key", "integer", "/integer"] ++
  ["key", "/key", "string", "/string"] ++
  ["key", "/key", "string", "/string"] ++
  (if hasUser then ["key", "/key", "string", "/string"] else []) ++
  ["/dict", "/plist"]

theorem turns_render (descriptor : Descriptor) :
    Turns (render descriptor).toList
      ([xmlTag, doctypeTag, plistTag, "dict"] ++ (entries descriptor).flatMap Entry.allTags ++
        ["/dict", "/plist"])
      (.empty [])
      (.node [] ("\n".toList ++ ("\n".toList ++ "\n".toList)) [plistElement descriptor]) := by
  have inner := (Turns.plain_empty "plist".toList "\n".toList (by decide)).append
    ((shows_dictionary descriptor _).append (Turns.plain "\n".toList (by decide) _))
  have isName : Tag.IsName "plist".toList := by decide
  have opens : Tag.ofChars plistTag.toList = .opening "plist".toList := by decide
  have plist := Turns.within plistTag.toList (by decide) opens isName rfl inner
  have turns := (Turns.declaration xmlTag.toList (by decide) (by decide) (.empty [])).append
    ((Turns.plain "\n".toList (by decide) _).append
      ((Turns.declaration doctypeTag.toList (by decide) (by decide) _).append
        ((Turns.plain "\n".toList (by decide) _).append
          ((plist _).append (Turns.plain "\n".toList (by decide) _)))))
  have text : (render descriptor).toList =
      Tag.written xmlTag.toList ++ ("\n".toList ++ (Tag.written doctypeTag.toList ++
        ("\n".toList ++ (Tag.written plistTag.toList ++ (("\n".toList ++
          ((between "dict" ("\n" ++ body descriptor)).toList ++ "\n".toList)) ++
            Tag.written ('/' :: "plist".toList)) ++ "\n".toList)))) := by
    rw [render_eq_body, String.toList_append, toList_header]
    generalize Tag.written xmlTag.toList = xml
    generalize Tag.written doctypeTag.toList = doctype
    generalize Tag.written plistTag.toList = plist
    simp [between, Tag.written]
  have closing : String.ofList ('/' :: "plist".toList) = "/plist" := by decide
  rw [text]
  simpa only [closing, String.ofList_toList, List.nil_append, List.append_nil, List.append_assoc,
    List.cons_append, Element.empty, Element.saying, Element.holding, plistElement] using turns

/-! ## Reading what was written -/

theorem held?_node {name : String} {said : List Char} (blank : said.all Text.isBlank = true)
    (children : List Element) : held? name (.node name.toList said children) = some children := by
  rw [held?, if_pos ⟨rfl, blank⟩]

theorem truth?_element (value : Bool) :
    truth? (.empty (if value then "true" else "false").toList) = some value := by
  cases value with
  | true => rfl
  | false => rfl

theorem number?_leaf (n : Nat) : number? (leaf "integer" (toString n)) = some n := by
  rw [number?, leaf?_leaf, Option.bind_some, Nat.toString_eq_ofList_toDigits, String.toList_ofList]
  exact Text.numeral?_toDigits (by decide) (by decide) n

/-- Layout that is repeated is blank. -/
theorem all_isBlank_flatMap {α : Type} {layout : List Char}
    (blank : layout.all Text.isBlank = true) (values : List α) :
    (values.flatMap (fun _ => layout)).all Text.isBlank = true := by
  rw [List.all_flatMap, List.all_eq_true]
  exact fun _ _ => blank

theorem mapM_leaf (name : String) (values : List String) :
    (values.map (leaf name)).mapM (leaf? name) = some values := by
  induction values with
  | nil => rfl
  | cons value values inductionHypothesis =>
      rw [List.map_cons, List.mapM_cons, leaf?_leaf, inductionHypothesis]
      rfl

theorem strings?_arrayElement (values : List String) :
    strings? (arrayElement values) = some values := by
  have blank : ("\n".toList ++ (values.flatMap (fun _ => "    \n".toList) ++ "  ".toList)).all
      Text.isBlank = true := by
    rw [List.all_append, List.all_append, all_isBlank_flatMap (by decide) values]
    decide
  rw [strings?, arrayElement, held?_node blank, Option.bind_some, mapM_leaf]

theorem keepAlive?_keepAliveElement (value : Bool) :
    keepAlive? (keepAliveElement value) = some value := by
  cases value with
  | true => rfl
  | false => rfl

theorem dictionary?_dictionaryElement (descriptor : Descriptor) :
    dictionary? (dictionaryElement descriptor) =
      some ((entries descriptor).map (fun entry => (entry.key, entry.value))) := by
  have blank : ("\n".toList ++ (entries descriptor).flatMap (fun _ => Entry.layout)).all
      Text.isBlank = true := by
    rw [List.all_append, all_isBlank_flatMap (by decide) (entries descriptor)]
    decide
  rw [dictionary?, dictionaryElement, held?_node blank, Option.bind_some,
    Entry.entries?_elements]

theorem content?_entries (descriptor : Descriptor) :
    content? ((entries descriptor).map (fun entry => (entry.key, entry.value))) =
      some (content descriptor) := by
  cases named : descriptor.user with
  | none =>
      simp only [content?, content, entries, commonEntries, userEntry, Entry.string, named,
        Option.toList_none, List.map_nil, List.append_nil, List.map_cons, List.lookup_cons,
        List.lookup_nil, String.reduceBEq, strings?_arrayElement, truth?_element,
        keepAlive?_keepAliveElement, number?_leaf, leaf?_leaf, Option.bind_some,
        Option.bind_eq_bind, Option.pure_def]
  | some user =>
      simp only [content?, content, entries, commonEntries, userEntry, Entry.string, named,
        Option.toList_some, List.map_nil, List.cons_append, List.nil_append, List.map_cons,
        List.lookup_cons, String.reduceBEq, strings?_arrayElement, truth?_element,
        keepAlive?_keepAliveElement, number?_leaf, leaf?_leaf, Option.bind_some,
        Option.bind_eq_bind, Option.map_some, Option.pure_def]

theorem outline_entries (descriptor : Descriptor) :
    [xmlTag, doctypeTag, plistTag, "dict"] ++ (entries descriptor).flatMap Entry.allTags ++
        ["/dict", "/plist"] =
      outline descriptor.arguments.length descriptor.restart.runAtLoad
        descriptor.restart.keepAlive descriptor.user.isSome := by
  cases named : descriptor.user with
  | none =>
      simp [outline, entries, commonEntries, userEntry, Entry.string, Entry.allTags, named]
  | some user =>
      simp [outline, entries, commonEntries, userEntry, Entry.string, Entry.allTags, named]

theorem parse_render (descriptor : Descriptor) :
    parse (render descriptor) = some
      ⟨outline descriptor.arguments.length descriptor.restart.runAtLoad
        descriptor.restart.keepAlive descriptor.user.isSome,
      .node [] ("\n".toList ++ ("\n".toList ++ "\n".toList)) [plistElement descriptor]⟩ := by
  rw [(turns_render descriptor).parse, outline_entries]

theorem read_render (descriptor : Descriptor) :
    read (render descriptor) = some (content descriptor) := by
  have outer : held? "" (.node [] ("\n".toList ++ ("\n".toList ++ "\n".toList))
      [plistElement descriptor]) = some [plistElement descriptor] :=
    held?_node (by decide) _
  have inner : held? "plist" (plistElement descriptor) = some [dictionaryElement descriptor] :=
    held?_node (by decide) _
  rw [read, parse_render]
  simp only [Option.bind_eq_bind, Option.bind_some, outer, inner,
    dictionary?_dictionaryElement, content?_entries]

/-- Services that are written alike are alike in all that is written. -/
theorem content_eq_of_render {descriptor other : Descriptor}
    (same : render descriptor = render other) : content descriptor = content other := by
  have read := read_render descriptor
  rw [same, read_render other] at read
  exact (Option.some.inj read).symm

/-- A reader recovers from a property list everything a service is, so services that are written
alike are alike in all that is written; and the tags it meets on the way depend on the shape of the
service only, so that no value is ever taken for one. -/
theorem render_reads_back (descriptor : Descriptor) :
    read (render descriptor) = some (content descriptor) ∧
      (∀ other, render other = render descriptor → content other = content descriptor) ∧
      (parse (render descriptor)).map Document.tags =
        some (outline descriptor.arguments.length descriptor.restart.runAtLoad
          descriptor.restart.keepAlive descriptor.user.isSome) := by
  refine ⟨read_render descriptor, ?_, ?_⟩
  · exact fun other => content_eq_of_render
  · rw [parse_render]
    rfl

end Steward.Plist
