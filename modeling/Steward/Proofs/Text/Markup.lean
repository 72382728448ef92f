import Mathlib.Data.List.TakeWhile

/-!
# Reading markup

A reader of text with tags, one character after the other.  Outside of tags it
collects characters, and of the entities it knows the five predefined ones.
A tag opens an element, closes the innermost open one, stands for an empty
element or declares something.  Everything a text does to the element in which
it stands is said by `Turns`, which composes: what a value does follows from
its characters, and what an element does from what stands in it.
-/

namespace Steward.Markup

/-- What stands between two tags: the characters directly in it and the elements in it. -/
inductive Element
  | node (name said : List Char) (children : List Element)

namespace Element

def name : Element → List Char
  | node name _ _ => name

/-- The characters that stand directly in an element. -/
def said : Element → List Char
  | node _ said _ => said

def children : Element → List Element
  | node _ _ children => children

/-- An element in which nothing stands. -/
def empty (name : List Char) : Element :=
  node name [] []

/-- An element with more characters in it. -/
def saying : Element → List Char → Element
  | node name said children, more => node name (said ++ more) children

/-- An element with one more element in it. -/
def holding : Element → Element → Element
  | node name said children, child => node name said (children ++ [child])

@[simp]
theorem saying_nil (element : Element) : element.saying [] = element := by
  cases element
  simp [saying]

@[simp]
theorem saying_saying (element : Element) (first second : List Char) :
    (element.saying first).saying second = element.saying (first ++ second) := by
  cases element
  simp [saying]

end Element

/-! ## Tags -/

/-- What a tag says. -/
inductive Tag
  /-- Something about the document. -/
  | declaration
  | opening (name : List Char)
  | closing (name : List Char)
  /-- An element in which nothing stands. -/
  | empty (name : List Char)
  deriving DecidableEq, Repr

namespace Tag

/-- What a tag with the given characters says.  What follows a blank are attributes. -/
def ofChars : List Char → Tag
  | '?' :: _ => declaration
  | '!' :: _ => declaration
  | '/' :: name => closing name
  | cs => if cs.getLast? = some '/' then empty cs.dropLast else opening (cs.takeWhile (· != ' '))

/-- Whether characters can stand in a tag. -/
def IsWhole (tag : List Char) : Prop :=
  ∀ c ∈ tag, c ≠ '<' ∧ c ≠ '>'

instance (tag : List Char) : Decidable (IsWhole tag) :=
  List.decidableBAll (fun c => c ≠ '<' ∧ c ≠ '>') tag

/-- How a tag is written. -/
def written (tag : List Char) : List Char :=
  '<' :: (tag ++ ['>'])

/-- Whether characters are the name of an element and nothing else in a tag. -/
def IsName (name : List Char) : Prop :=
  name ≠ [] ∧ ∀ c ∈ name, c.isAlpha

instance (name : List Char) : Decidable (IsName name) :=
  @instDecidableAnd _ _ inferInstance (List.decidableBAll (fun c => c.isAlpha = true) name)

variable {name : List Char}

theorem IsName.ne (isName : IsName name) {c d : Char} (member : c ∈ name)
    (other : d.isAlpha = false) : c ≠ d := by
  rintro rfl
  exact absurd (isName.2 c member) (by rw [other]; exact Bool.false_ne_true)

theorem IsName.isWhole (isName : IsName name) : IsWhole name :=
  fun _ member => ⟨isName.ne member (by decide), isName.ne member (by decide)⟩

theorem IsName.isWhole_closing (isName : IsName name) : IsWhole ('/' :: name) := by
  intro c member
  rcases List.mem_cons.1 member with rfl | member
  · exact ⟨by decide, by decide⟩
  · exact isName.isWhole c member

theorem IsName.opens (isName : IsName name) : ofChars name = opening name := by
  have inner : name.takeWhile (· != ' ') = name := by
    rw [List.takeWhile_eq_self_iff]
    intro c member
    exact bne_iff_ne.2 (isName.ne member (by decide))
  have last : name.getLast? ≠ some '/' := by
    intro last
    exact isName.ne (List.mem_of_getLast? last) (by decide) rfl
  unfold ofChars
  split
  case h_1 => exact absurd rfl (isName.ne List.mem_cons_self (by decide))
  case h_2 => exact absurd rfl (isName.ne List.mem_cons_self (by decide))
  case h_3 => exact absurd rfl (isName.ne List.mem_cons_self (by decide))
  case h_4 => rw [if_neg last, inner]

end Tag

/-- The character that an entity stands for. -/
def entity? (name : List Char) : Option Char :=
  if name = ['a', 'm', 'p'] then some '&'
  else if name = ['l', 't'] then some '<'
  else if name = ['g', 't'] then some '>'
  else if name = ['q', 'u', 'o', 't'] then some '"'
  else if name = ['a', 'p', 'o', 's'] then some '\''
  else none

/-! ## The reader -/

/-- What the reader is in the middle of. -/
inductive Mode
  | text
  /-- A tag, with the characters of it so far. -/
  | tag (read : List Char)
  /-- An entity, with the characters of it so far. -/
  | entity (read : List Char)

structure Reader where
  /-- The tags that have been read, the first one first. -/
  tags : List String
  mode : Mode
  /-- The innermost open element. -/
  inner : Element
  /-- The open elements around it, from the inside out. -/
  outer : List Element

namespace Reader

/-- The innermost open element and those around it behind a tag. -/
def nest (inner : Element) (outer : List Element) : Tag → Option (Element × List Element)
  | .declaration => some (inner, outer)
  | .opening name => some (.empty name, inner :: outer)
  | .empty name => some (inner.holding (.empty name), outer)
  | .closing name =>
    match outer with
    | [] => none
    | parent :: outer => if inner.name = name then some (parent.holding inner, outer) else none

/-- The reader behind one more character. -/
def step : Reader → Char → Option Reader
  | ⟨tags, .text, inner, outer⟩, c =>
    if c = '<' then some ⟨tags, .tag [], inner, outer⟩
    else if c = '&' then some ⟨tags, .entity [], inner, outer⟩
    else some ⟨tags, .text, inner.saying [c], outer⟩
  | ⟨tags, .tag read, inner, outer⟩, c =>
    if c = '>' then
      (nest inner outer (.ofChars read)).map fun (inner, outer) =>
        ⟨tags ++ [String.ofList read], .text, inner, outer⟩
    else if c = '<' then none
    else some ⟨tags, .tag (read ++ [c]), inner, outer⟩
  | ⟨tags, .entity read, inner, outer⟩, c =>
    if c = ';' then
      (entity? read).map fun c => ⟨tags, .text, inner.saying [c], outer⟩
    else some ⟨tags, .entity (read ++ [c]), inner, outer⟩

/-- The reader behind a text. -/
def run (reader : Reader) (cs : List Char) : Option Reader :=
  cs.foldlM step reader

theorem run_cons (reader : Reader) (c : Char) (cs : List Char) :
    reader.run (c :: cs) = (reader.step c).bind (fun reader => reader.run cs) :=
  List.foldlM_cons

theorem run_append (reader : Reader) (front back : List Char) :
    reader.run (front ++ back) = (reader.run front).bind (fun reader => reader.run back) :=
  List.foldlM_append

variable {met : List String} {inner : Element} {outer : List Element}

/-- In a tag, characters are collected up to its end. -/
theorem run_inside {tag : List Char} (whole : Tag.IsWhole tag) (read : List Char) :
    (mk met (.tag read) inner outer).run (tag ++ ['>']) =
      (nest inner outer (.ofChars (read ++ tag))).map fun (inner, outer) =>
        ⟨met ++ [String.ofList (read ++ tag)], .text, inner, outer⟩ := by
  induction tag generalizing read with
  | nil =>
      rw [List.append_nil, List.nil_append, run_cons, step, if_pos rfl]
      exact Option.bind_fun_some _
  | cons c tag inductionHypothesis =>
      obtain ⟨opens, closes⟩ := whole c List.mem_cons_self
      have rest : Tag.IsWhole tag := fun d member => whole d (List.mem_cons_of_mem c member)
      rw [List.cons_append, run_cons, step, if_neg closes, if_neg opens, Option.bind_some,
        inductionHypothesis rest, List.append_assoc, List.singleton_append]

/-- In an entity, characters are collected up to its end. -/
theorem run_entity {name : List Char} (whole : ';' ∉ name) (read : List Char) :
    (mk met (.entity read) inner outer).run (name ++ [';']) =
      (entity? (read ++ name)).map fun c => ⟨met, .text, inner.saying [c], outer⟩ := by
  induction name generalizing read with
  | nil =>
      rw [List.append_nil, List.nil_append, run_cons, step, if_pos rfl]
      exact Option.bind_fun_some _
  | cons c name inductionHypothesis =>
      obtain ⟨unended, rest⟩ := not_or.1 (List.mem_cons.not.1 whole)
      rw [List.cons_append, run_cons, step, if_neg (Ne.symm unended), Option.bind_some,
        inductionHypothesis rest, List.append_assoc, List.singleton_append]

/-- A tag is read as a whole. -/
theorem run_tag {tag : List Char} (whole : Tag.IsWhole tag) :
    (mk met .text inner outer).run (Tag.written tag) =
      (nest inner outer (.ofChars tag)).map fun (inner, outer) =>
        ⟨met ++ [String.ofList tag], .text, inner, outer⟩ := by
  rw [Tag.written, run_cons, step, if_pos rfl, Option.bind_some, run_inside whole, List.nil_append]

end Reader

/-- A document that has been read: its tags in order, and an element in which it stands. -/
structure Document where
  tags : List String
  content : Element

/-- Reads a whole document, in which every element is closed. -/
def parse (text : String) : Option Document :=
  match (Reader.mk [] .text (.empty []) []).run text.toList with
  | some ⟨tags, .text, content, []⟩ => some ⟨tags, content⟩
  | _ => none

/-! ## What texts do to the element around them -/

/-- Whether no tag and no entity begins in a text. -/
def IsPlain (text : List Char) : Prop :=
  ∀ c ∈ text, c ≠ '<' ∧ c ≠ '&'

instance (text : List Char) : Decidable (IsPlain text) :=
  List.decidableBAll (fun c => c ≠ '<' ∧ c ≠ '&') text

/-- A text that stands in an element turns it into another one and has the given tags in it. -/
def Turns (text : List Char) (tags : List String) (element turned : Element) : Prop :=
  ∀ met outer, (Reader.mk met .text element outer).run text =
    some ⟨met ++ tags, .text, turned, outer⟩

namespace Turns

variable {text : List Char} {tags : List String} {element turned : Element}

theorem nil (element : Element) : Turns [] [] element element := by
  intro met outer
  rw [List.append_nil]
  rfl

theorem append {front back : List Char} {first second : List String} {middle : Element}
    (opening : Turns front first element middle) (closing : Turns back second middle turned) :
    Turns (front ++ back) (first ++ second) element turned := by
  intro met outer
  rw [Reader.run_append, opening, Option.bind_some, closing, List.append_assoc]

/-- What is written for a character is read as the character. -/
def Stands (written : List Char) (c : Char) : Prop :=
  ∀ element, Turns written [] element (element.saying [c])

theorem stands_self {c : Char} (noTag : c ≠ '<') (noEntity : c ≠ '&') : Stands [c] c := by
  intro element met outer
  rw [Reader.run_cons, Reader.step, if_neg noTag, if_neg noEntity, Option.bind_some,
    List.append_nil]
  rfl

theorem stands_entity {name : List Char} {c : Char} (whole : ';' ∉ name)
    (known : entity? name = some c) : Stands ('&' :: (name ++ [';'])) c := by
  intro element met outer
  rw [Reader.run_cons, Reader.step, if_neg (by decide), if_pos rfl, Option.bind_some,
    Reader.run_entity whole, List.nil_append, known, List.append_nil]
  rfl

/-- Characters one after the other are read as they are written. -/
theorem stands_all {write : Char → List Char} (stands : ∀ c ∈ text, Stands (write c) c)
    (element : Element) : Turns (text.flatMap write) [] element (element.saying text) := by
  induction text generalizing element with
  | nil =>
      rw [Element.saying_nil]
      exact nil element
  | cons c text inductionHypothesis =>
      have first : Turns (write c) [] element (element.saying [c]) :=
        stands c List.mem_cons_self element
      have rest := inductionHypothesis (fun d member => stands d (List.mem_cons_of_mem c member))
        (element.saying [c])
      rw [Element.saying_saying] at rest
      exact first.append rest

/-- A text in which no tag and no entity begins says its characters. -/
theorem plain (text : List Char) (plain : IsPlain text) (element : Element) :
    Turns text [] element (element.saying text) := by
  have said := stands_all (fun c member => stands_self (plain c member).1 (plain c member).2)
    element
  rwa [List.flatMap_singleton'] at said

/-- A text in an element in which nothing has stood so far. -/
theorem plain_empty (name text : List Char) (plain : IsPlain text) :
    Turns text [] (.empty name) (.node name text []) :=
  Turns.plain text plain (.empty name)

/-- A declaration leaves the element around it alone. -/
theorem declaration (tag : List Char) (whole : Tag.IsWhole tag)
    (declares : Tag.ofChars tag = .declaration) (element : Element) :
    Turns (Tag.written tag) [String.ofList tag] element element := by
  intro met outer
  rw [Reader.run_tag whole, declares]
  rfl

/-- The tag of an empty element puts it into the element around it. -/
theorem empty (tag : List Char) {name : List Char} (whole : Tag.IsWhole tag)
    (isEmpty : Tag.ofChars tag = .empty name) (element : Element) :
    Turns (Tag.written tag) [String.ofList tag] element (element.holding (.empty name)) := by
  intro met outer
  rw [Reader.run_tag whole, isEmpty]
  rfl

/-- A text that turns an empty element into another one puts that one into the element around it
when it stands between a tag that opens the element and the tag that closes it. -/
theorem within (front : List Char) {name : List Char} (whole : Tag.IsWhole front)
    (opens : Tag.ofChars front = .opening name) (isName : Tag.IsName name) {child : Element}
    (named : child.name = name) (inside : Turns text tags (.empty name) child)
    (element : Element) :
    Turns (Tag.written front ++ (text ++ Tag.written ('/' :: name)))
      (String.ofList front :: (tags ++ [String.ofList ('/' :: name)])) element
      (element.holding child) := by
  intro met outer
  have closes : Tag.ofChars ('/' :: name) = .closing name := rfl
  rw [Reader.run_append, Reader.run_tag whole, opens]
  simp only [Reader.nest, Option.map_some, Option.bind_some]
  rw [Reader.run_append, inside, Option.bind_some, Reader.run_tag isName.isWhole_closing, closes]
  simp [Reader.nest, named]

/-- The tag that opens an element is its name, if it has no attributes. -/
theorem between {name : List Char} (isName : Tag.IsName name) {child : Element}
    (named : child.name = name) (inside : Turns text tags (.empty name) child)
    (element : Element) :
    Turns (Tag.written name ++ (text ++ Tag.written ('/' :: name)))
      (String.ofList name :: (tags ++ [String.ofList ('/' :: name)])) element
      (element.holding child) :=
  within name isName.isWhole isName.opens isName named inside element

/-- A text that turns nothing into something is a document. -/
theorem parse {text : String} (turns : Turns text.toList tags (.empty []) turned) :
    parse text = some ⟨tags, turned⟩ := by
  rw [Markup.parse, turns]
  rfl

end Turns

end Steward.Markup
