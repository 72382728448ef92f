import Steward.Proofs.Text.Digits
import Steward.Proofs.Yaml.Lexing

/-!
# Tokens of what is written

The sections of a document are read as the tokens of their entries, whatever
the values are.
-/

namespace Steward.Yaml.Emit

open Lexer

variable {rest tail : List Char} {line column margin count indent : Nat} {outer : List Nat}
  {tokens given : List Token} {entries : List (String × Value)}

/-! ## Values -/

namespace Value

/-- How a value is written. -/
def style : Value → Style
  | .text content => styleOf content.toList
  | .truth _ | .number _ => .plain

/-- What a value says. -/
def content : Value → String
  | .text content => content
  | .truth value => if value then "true" else "false"
  | .number n => toString n

def token (value : Value) : Token :=
  .scalar value.style value.content

/-- The ways in which a value is written. -/
inductive Written (indent : Nat) (value : Value) : Prop
  | plain (style : value.style = .plain) (fits : fitsPlain value.content.toList = true)
      (rendered : value.render indent = value.content.toList ++ ['\n'])
  | singleQuoted (style : value.style = .singleQuoted)
      (fits : fitsSingleQuotes value.content.toList = true) (feeds : '\n' ∉ value.content.toList)
      (rendered : value.render indent = singleQuoted (indent + 2) value.content.toList ++ ['\n'])
  | doubleQuoted (style : value.style = .doubleQuoted)
      (rendered : value.render indent = doubleQuoted value.content.toList ++ ['\n'])
  | literal (style : value.style = .literal) (fits : fitsLiteral value.content.toList = true)
      (some : value.content.toList ≠ [])
      (rendered : value.render indent = literalHeader value.content.toList ++
        literalLines (indent + 2) true value.content.toList)

theorem written_text (indent : Nat) (content : String) : (Value.text content).Written indent := by
  have rendered : (Value.text content).render indent = textValue indent content := rfl
  rw [textValue] at rendered
  by_cases feeds : content.toList.contains '\n' = true
  · have some : content.toList ≠ [] := by
      intro none
      rw [none] at feeds
      exact absurd feeds (by decide)
    by_cases fits : fitsLiteral content.toList = true
    · have style : styleOf content.toList = .literal := by
        rw [styleOf, if_pos feeds, if_pos fits]
      simp only [style] at rendered
      exact .literal style fits some rendered
    · have style : styleOf content.toList = .doubleQuoted := by
        rw [styleOf, if_pos feeds, if_neg fits]
      simp only [style] at rendered
      exact .doubleQuoted style rendered
  · have unfed : '\n' ∉ content.toList := by simpa using feeds
    by_cases itself : (!Word.isTakenForOther (String.ofList content.toList) &&
        fitsPlain content.toList) = true
    · have style : styleOf content.toList = .plain := by
        rw [styleOf, if_neg feeds, if_pos itself]
      simp only [style] at rendered
      exact .plain style (Bool.and_eq_true_iff.1 itself).2 rendered
    · by_cases fits : fitsSingleQuotes content.toList = true
      · have style : styleOf content.toList = .singleQuoted := by
          rw [styleOf, if_neg feeds, if_neg itself, if_pos fits]
        simp only [style] at rendered
        exact .singleQuoted style fits unfed rendered
      · have style : styleOf content.toList = .doubleQuoted := by
          rw [styleOf, if_neg feeds, if_neg itself, if_neg fits]
        simp only [style] at rendered
        exact .doubleQuoted style rendered

theorem fitsPlain_number (n : Nat) : fitsPlain (toString n).toList = true := by
  apply Plain.fits_of_name
  · rw [Nat.toString_eq_ofList_toDigits, String.toList_ofList]
    exact Nat.toDigits_ne_nil
  · intro c member
    have digit := Text.isDigit_of_mem_toString member
    simp [Plain.isNameChar, Char.isAlphanum, digit]

theorem written (indent : Nat) (value : Value) : value.Written indent := by
  cases value with
  | text content => exact written_text indent content
  | truth value => cases value <;> exact .plain rfl (by decide) rfl
  | number n => exact .plain rfl (fitsPlain_number n) rfl

/-- A value is read up to what begins on the next line. -/
theorem gives (value : Value) (begins : Begins rest) (outside : count ≤ indent)
    (inside : indent + 1 ≤ column + 2)
    (onward : ∀ line, (place rest line count (value.token :: tokens) (indent + 1) outer true).Gives
      given) :
    (place (' ' :: (value.render indent ++ (List.replicate count ' ' ++ rest))) line column tokens
      (indent + 1) outer false).Gives given := by
  cases value.written indent with
  | plain style fits rendered =>
    rw [token, style, ← String.ofList_toList (s := value.content)] at onward
    rw [rendered, List.append_assoc]
    apply gives_value (begins_of_fits fits _) inside
      (here_plain fits begins inside (Nat.lt_succ_of_le outside)) _ (onward _)
    simp [place, start]
    omega
  | singleQuoted style fits feeds rendered =>
    rw [token, style, ← String.ofList_toList (s := value.content)] at onward
    have feed : ∀ c ∈ ('\n' :: (List.replicate count ' ' ++ rest)).head?, c ≠ '\'' := by simp
    rcases here_singleQuoted (Nat.succ_ne_zero (indent + 1)) fits feeds feed with
      ⟨line', column', read⟩
    rw [rendered, List.append_assoc]
    apply gives_value (begins_cons.2 (by decide)) inside read _ (gives_line begins (onward _))
    simp [place, start]
    omega
  | doubleQuoted style rendered =>
    rw [token, style, ← String.ofList_toList (s := value.content)] at onward
    rcases here_doubleQuoted value.content.toList with ⟨line', column', read⟩
    rw [rendered, List.append_assoc]
    apply gives_value (begins_cons.2 (by decide)) inside read _ (gives_line begins (onward _))
    simp [place, start]
    omega
  | literal style fits some rendered =>
    rw [token, style, ← String.ofList_toList (s := value.content)] at onward
    rcases here_literal (Nat.succ_ne_zero indent) fits some begins (Nat.le_succ_of_le outside) with
      ⟨line', read⟩
    rw [rendered]
    apply gives_value (begins_cons.2 (by decide)) inside read _ (onward _)
    simp [place, start]
    omega

end Value

/-! ## Entries -/

/-- The entries that a list of fields comes to. -/
def entriesOf (fields : List Field) : List (String × Value) :=
  fields.filterMap fun (key, value) => value.map fun value => (key, value)

/-- An entry as it is written. -/
def entryText (entry : String × Value) : List Char :=
  field 2 (entry.1, some entry.2)

/-- The tokens of an entry. -/
def entryTokens (entry : String × Value) : List Token :=
  [.key, .scalar .plain entry.1, .value, entry.2.token]

theorem flatMap_field (fields : List Field) :
    fields.flatMap (field 2) = (entriesOf fields).flatMap entryText := by
  induction fields with
  | nil => rfl
  | cons first fields inductionHypothesis =>
    rcases first with ⟨key, none | value⟩
    · exact inductionHypothesis
    · rw [List.flatMap_cons, inductionHypothesis]
      rfl

/-- A name that can be written as a key. -/
structure IsKey (name : String) : Prop where
  fits : fitsPlain name.toList = true
  short : name.toList.length ≤ 1024

instance (name : String) : Decidable (IsKey name) :=
  decidable_of_iff (fitsPlain name.toList = true ∧ name.toList.length ≤ 1024)
    ⟨fun key => ⟨key.1, key.2⟩, fun key => ⟨key.fits, key.short⟩⟩

/-- An entry is read up to what begins on the next line.  The first entry of a mapping begins its
block. -/
theorem gives_entry {entry : String × Value} (named : IsKey entry.1) (begins : Begins rest)
    (outside : count ≤ 2) (inside : margin ≤ 3)
    (onward : ∀ line, (place rest line count
      (entry.2.token :: .value :: .scalar .plain entry.1 ::
        ((if margin < 3 then [.key, .blockMappingStart] else [.key]) ++ tokens))
      3 (if margin < 3 then margin :: outer else outer) true).Gives given) :
    ∃ text, entryText entry ++ (List.replicate count ' ' ++ rest) = [' ', ' '] ++ text ∧
      Begins text ∧ ∀ line, (place text line 2 tokens margin outer true).Gives given := by
  refine ⟨entry.1.toList ++ ':' :: ' ' :: (entry.2.render 2 ++ (List.replicate count ' ' ++ rest)),
    by simp [entryText, field, Emit.margin, List.replicate_succ], begins_of_fits named.fits _, ?_⟩
  intro line
  apply gives_key named.fits named.short rfl inside
  rw [String.ofList_toList]
  exact entry.2.gives begins outside (by omega) onward

/-- The entries after the first are read up to what begins left of them. -/
theorem gives_entries (named : ∀ entry ∈ entries, IsKey entry.1) (begins : Begins tail)
    (onward : ∀ line, (place tail line 0 ((entries.flatMap entryTokens).reverse ++ tokens) 3 outer
      true).Gives given) :
    ∃ count rest, entries.flatMap entryText ++ tail = List.replicate count ' ' ++ rest ∧
      Begins rest ∧ count ≤ 2 ∧
        ∀ line, (place rest line count tokens 3 outer true).Gives given := by
  induction entries generalizing tokens with
  | nil => exact ⟨0, tail, rfl, begins, Nat.zero_le 2, onward⟩
  | cons entry entries inductionHypothesis =>
    rw [List.forall_mem_cons] at named
    have split : ((entry :: entries).flatMap entryTokens).reverse ++ tokens =
        (entries.flatMap entryTokens).reverse ++ ((entryTokens entry).reverse ++ tokens) := by
      simp
    rw [split] at onward
    rcases inductionHypothesis named.2 onward with ⟨count, rest, text, beginsRest, few, gives⟩
    rcases gives_entry named.1 beginsRest few le_rfl gives with ⟨rest', text', begins', gives'⟩
    refine ⟨2, rest', ?_, begins', le_rfl, gives'⟩
    rw [List.flatMap_cons, List.append_assoc, text, text']
    rfl

/-! ## Sections -/

/-- A section that has a key in it, and whose keys can be written. -/
structure IsSection (given : String × List Field) : Prop where
  named : IsKey given.1
  keys : ∀ entry ∈ entriesOf given.2, IsKey entry.1
  some : entriesOf given.2 ≠ []

/-- The tokens of a section. -/
def sectionTokens (given : String × List Field) : List Token :=
  [.key, .scalar .plain given.1, .value, .blockMappingStart] ++
    (entriesOf given.2).flatMap entryTokens ++ [.blockEnd]

/-- The block of a section ends where the next section begins. -/
theorem gives_outdent (begins : Begins rest)
    (gives : (place rest line 0 (.blockEnd :: tokens) 1 outer true).Gives given) :
    (place rest line 0 tokens 3 (1 :: outer) true).Gives given := by
  have unrolled : (place rest line 0 tokens 3 (1 :: outer) true).unroll 0 =
      place rest line 0 (.blockEnd :: tokens) 1 outer true := by
    cases outer with
    | nil => rfl
    | cons next outer => rfl
  apply Gives.of_step_eq gives rfl rfl
  · rw [step_place begins, step_place begins, unrolled, unroll_of_inside]
    exact le_rfl
  · exact le_rfl

/-- A section is read up to the next one.  The first section begins the block of the document. -/
theorem gives_section {section' : String × List Field} (written : IsSection section')
    (begins : Begins tail) (inside : margin ≤ 1)
    (onward : ∀ line, (place tail line 0 ((sectionTokens section').reverse ++
      ((if margin < 1 then [.blockMappingStart] else []) ++ tokens)) 1
        (if margin < 1 then margin :: outer else outer) true).Gives given) (line : Nat) :
    Begins (mappingSection section'.1 section'.2 ++ tail) ∧
      (place (mappingSection section'.1 section'.2 ++ tail) line 0 tokens margin outer true).Gives
        given := by
  rcases section' with ⟨name, fields⟩
  rcases written with ⟨named, keys, some⟩
  cases entries : entriesOf fields with
  | nil => exact absurd entries some
  | cons first later =>
    rw [entries, List.forall_mem_cons] at keys
    have split : (sectionTokens (name, fields)).reverse ++
        ((if margin < 1 then [.blockMappingStart] else []) ++ tokens) =
          .blockEnd :: ((later.flatMap entryTokens).reverse ++
            (first.2.token :: .value :: .scalar .plain first.1 :: ([.key, .blockMappingStart] ++
              (.value :: .scalar .plain name ::
                ((if margin < 1 then [.key, .blockMappingStart] else [.key]) ++ tokens))))) := by
      split_ifs <;> simp [sectionTokens, entries, entryTokens]
    rw [split] at onward
    -- From the end back to the front: the later entries, the first one, and the section's name.
    rcases gives_entries keys.2 begins fun line => gives_outdent begins (onward line) with
      ⟨count, rest, later', beginsRest, few, gives⟩
    have shallow : 1 ≤ 3 := by decide
    rcases gives_entry keys.1 beginsRest few shallow gives with
      ⟨text, first', beginsText, gives⟩
    have written : mappingSection name fields ++ tail =
        name.toList ++ ':' :: '\n' :: (List.replicate 2 ' ' ++ text) := by
      rw [mappingSection, flatMap_field, entries, List.flatMap_cons]
      simp only [List.append_assoc]
      rw [later', first']
      rfl
    rw [written]
    constructor
    · exact begins_of_fits named.fits _
    · apply gives_key named.fits named.short rfl inside
      rw [String.ofList_toList]
      exact gives_line beginsText (gives _)

/-- The tokens of a document that has sections. -/
def documentTokens (sections : List (String × List Field)) : List Token :=
  .blockMappingStart :: sections.flatMap sectionTokens ++ [.blockEnd, .streamEnd]

/-- What is written of a document. -/
def documentText (sections : List (String × List Field)) : List Char :=
  sections.flatMap fun given => mappingSection given.1 given.2

theorem gives_end (line : Nat) :
    (place [] line 0 tokens 1 [0] true).Gives (tokens.reverse ++ [.blockEnd, .streamEnd]) := by
  intro fuel enough
  obtain ⟨fuel, rfl⟩ : ∃ less, fuel = less + 2 := ⟨fuel - 2, by omega⟩
  have last : (place [] line 0 tokens 1 [0] true).step =
      .ok { place [] line 0 (.streamEnd :: .blockEnd :: tokens) 0 [] false with
        finished := true } :=
    rfl
  rw [steps, last]
  change Except.ok (.streamEnd :: .blockEnd :: tokens).reverse = _
  simp

/-- The sections after the first are read up to the end. -/
theorem gives_sections {sections : List (String × List Field)}
    (written : ∀ given ∈ sections, IsSection given) (tokens : List Token) :
    Begins (documentText sections) ∧ ∀ line,
      (place (documentText sections) line 0 tokens 1 [0] true).Gives
        (tokens.reverse ++ (sections.flatMap sectionTokens ++ [.blockEnd, .streamEnd])) := by
  induction sections generalizing tokens with
  | nil => exact ⟨nofun, gives_end⟩
  | cons first sections inductionHypothesis =>
    rw [List.forall_mem_cons] at written
    rcases inductionHypothesis written.2 ((sectionTokens first).reverse ++ tokens) with
      ⟨begins, onward⟩
    have split : ((sectionTokens first).reverse ++ tokens).reverse ++
        (sections.flatMap sectionTokens ++ [.blockEnd, .streamEnd]) =
          tokens.reverse ++
            ((first :: sections).flatMap sectionTokens ++ [.blockEnd, .streamEnd]) := by
      simp
    rw [split] at onward
    have read := gives_section written.1 begins le_rfl onward
    exact ⟨(read 0).1, fun line => (read line).2⟩

/-- The sections of a document are read from its beginning. -/
theorem gives_document {sections : List (String × List Field)} (some : sections ≠ [])
    (written : ∀ given ∈ sections, IsSection given) :
    (start (documentText sections)).Gives (documentTokens sections) := by
  cases sections with
  | nil => exact absurd rfl some
  | cons first sections =>
    rw [List.forall_mem_cons] at written
    rcases gives_sections written.2 ((sectionTokens first).reverse ++ [.blockMappingStart]) with
      ⟨begins, onward⟩
    have split : ((sectionTokens first).reverse ++ [Token.blockMappingStart]).reverse ++
        (sections.flatMap sectionTokens ++ [.blockEnd, .streamEnd]) =
          documentTokens (first :: sections) := by
      simp [documentTokens]
    rw [split] at onward
    exact (gives_section written.1 begins (Nat.zero_le 1) onward 0).2

end Steward.Yaml.Emit
