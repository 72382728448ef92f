import Steward.Proofs.Yaml.Entries

/-!
# Characters of what is written

Only printable characters are written, and those a reader takes as they are.
-/

namespace Steward.Yaml

namespace Emit

variable {c : Char} {cs text : List Char} {indent : Nat}

/-! ## Texts in each style -/

/-- All characters of a text can be written as they are. -/
def IsPrintable (text : List Char) : Prop :=
  ∀ c ∈ text, isPrintable c = true

instance (text : List Char) : Decidable (IsPrintable text) :=
  decidable_of_iff (text.all isPrintable = true) List.all_eq_true

theorem isPrintable_nil : IsPrintable [] :=
  List.forall_mem_nil _

theorem isPrintable_append {front back : List Char} :
    IsPrintable (front ++ back) ↔ IsPrintable front ∧ IsPrintable back :=
  List.forall_mem_append

theorem isPrintable_cons : IsPrintable (c :: text) ↔ isPrintable c = true ∧ IsPrintable text :=
  List.forall_mem_cons

theorem isPrintable_margin (indent : Nat) : IsPrintable (margin indent) := by
  intro c member
  rw [List.eq_of_mem_replicate member]
  decide

theorem isPrintable_of_hasSpecial (plain : hasSpecial cs = false) : IsPrintable cs := by
  simpa [hasSpecial, IsPrintable] using plain

theorem isPrintable_singleQuotedFrom (indent : Nat) (printable : IsPrintable cs) (broken : Bool) :
    IsPrintable (singleQuotedFrom indent broken cs) := by
  induction cs generalizing broken with
  | nil =>
    rw [singleQuotedFrom]
    split
    · exact isPrintable_margin indent
    · exact isPrintable_nil
  | cons c cs inductionHypothesis =>
    rw [isPrintable_cons] at printable
    have start : IsPrintable (if broken then margin indent else []) := by
      split
      · exact isPrintable_margin indent
      · exact isPrintable_nil
    have quoted : IsPrintable (if c == '\'' then ['\'', '\''] else [c]) := by
      split
      · decide
      · exact isPrintable_cons.2 ⟨printable.1, isPrintable_nil⟩
    rw [singleQuotedFrom]
    split
    · exact isPrintable_cons.2 ⟨printable.1, inductionHypothesis printable.2 true⟩
    · exact isPrintable_append.2
        ⟨isPrintable_append.2 ⟨start, quoted⟩, inductionHypothesis printable.2 false⟩

theorem isPrintable_literalLines (printable : IsPrintable cs) (broken : Bool) :
    IsPrintable (literalLines indent broken cs) := by
  induction cs generalizing broken with
  | nil =>
    rw [literalLines]
    split
    · exact isPrintable_nil
    · decide
  | cons c cs inductionHypothesis =>
    rw [isPrintable_cons] at printable
    have start : IsPrintable (if broken then margin indent else []) := by
      split
      · exact isPrintable_margin indent
      · exact isPrintable_nil
    rw [literalLines]
    split
    · exact isPrintable_cons.2 ⟨printable.1, inductionHypothesis printable.2 true⟩
    · exact isPrintable_append.2
        ⟨start, isPrintable_cons.2 ⟨printable.1, inductionHypothesis printable.2 false⟩⟩

theorem isPrintable_capitalHex (width n : Nat) : IsPrintable (Text.capitalHex width n).toList := by
  have every : ∀ d : Fin 16, isPrintable d.val.digitChar.toUpper = true := by decide
  intro c member
  rw [Text.toList_capitalHex, List.mem_append, List.mem_map] at member
  rcases member with zero | ⟨d, member, rfl⟩
  · rw [List.eq_of_mem_replicate zero]
    decide
  · rcases Text.exists_of_mem_toDigits (by decide) member with ⟨digit, small, rfl⟩
    exact every ⟨digit, small⟩

theorem isPrintable_escaped (c : Char) : IsPrintable (escaped c) := by
  have hex : ∀ mark width, isPrintable mark = true →
      IsPrintable ('\\' :: mark :: (Text.capitalHex width c.toNat).toList) := by
    intro mark width printable
    exact isPrintable_cons.2
      ⟨by decide, isPrintable_cons.2 ⟨printable, isPrintable_capitalHex width _⟩⟩
  unfold escaped
  split
  case h_6 =>
    split
    · rename_i plain
      exact isPrintable_cons.2 ⟨(Bool.and_eq_true_iff.1 plain).1, isPrintable_nil⟩
    · split
      case h_10 =>
        split
        · exact hex 'x' 2 (by decide)
        · split
          · exact hex 'u' 4 (by decide)
          · exact hex 'U' 8 (by decide)
      all_goals decide
  all_goals decide

/-! ## Documents -/

theorem isPrintable_literalHeader (cs : List Char) : IsPrintable (literalHeader cs) := by
  have mark : IsPrintable (chompingMark cs) := by
    unfold chompingMark
    split
    · decide
    · split <;> decide
    · split
      · decide
      · split <;> decide
  have told : IsPrintable (if cs.head?.any isEdge then ['2'] else []) := by split <;> decide
  have feed : IsPrintable ['\n'] := by decide
  exact isPrintable_append.2 ⟨isPrintable_cons.2
    ⟨by decide, isPrintable_append.2 ⟨told, mark⟩⟩, feed⟩

theorem isPrintable_of_fitsPlain (fits : fitsPlain cs = true) : IsPrintable cs :=
  (Plain.isFit_of_fits fits).printable

theorem isPrintable_render (indent : Nat) (value : Value) : IsPrintable (value.render indent) := by
  have feed : IsPrintable ['\n'] := by decide
  cases value.written indent with
  | plain style fits rendered =>
    rw [rendered]
    exact isPrintable_append.2 ⟨isPrintable_of_fitsPlain fits, feed⟩
  | singleQuoted style fits feeds rendered =>
    simp only [fitsSingleQuotes, Bool.not_eq_true', Bool.or_eq_false_iff] at fits
    have quoted := isPrintable_singleQuotedFrom (indent + 2)
      (isPrintable_of_hasSpecial fits.1.1) false
    have quote : IsPrintable ['\''] := by decide
    rw [rendered]
    have begun := isPrintable_append.2 ⟨quote, quoted⟩
    exact isPrintable_append.2 ⟨isPrintable_append.2 ⟨begun, quote⟩, feed⟩
  | doubleQuoted style rendered =>
    have quoted : IsPrintable (value.content.toList.flatMap escaped) := by
      intro c member
      rcases List.mem_flatMap.1 member with ⟨d, -, member⟩
      exact isPrintable_escaped d c member
    have quote : IsPrintable ['"'] := by decide
    rw [rendered]
    have begun := isPrintable_append.2 ⟨quote, quoted⟩
    exact isPrintable_append.2 ⟨isPrintable_append.2 ⟨begun, quote⟩, feed⟩
  | literal style fits some rendered =>
    simp only [fitsLiteral, Bool.not_eq_true', Bool.or_eq_false_iff] at fits
    rw [rendered]
    exact isPrintable_append.2 ⟨isPrintable_literalHeader _,
      isPrintable_literalLines (isPrintable_of_hasSpecial fits.1.1) true⟩

theorem isPrintable_entryText {entry : String × Value} (named : IsKey entry.1) :
    IsPrintable (entryText entry) := by
  have colon : IsPrintable [':', ' '] := by decide
  exact isPrintable_append.2 ⟨isPrintable_append.2
    ⟨isPrintable_append.2 ⟨isPrintable_margin 2, isPrintable_of_fitsPlain named.fits⟩, colon⟩,
    isPrintable_render 2 entry.2⟩

theorem isPrintable_documentText {sections : List (String × List Field)}
    (written : ∀ given ∈ sections, IsSection given) : IsPrintable (documentText sections) := by
  intro c member
  rcases List.mem_flatMap.1 member with ⟨⟨name, fields⟩, listed, member⟩
  rcases written _ listed with ⟨named, keys, -⟩
  have colon : IsPrintable [':', '\n'] := by decide
  simp only [mappingSection, flatMap_field, List.mem_append] at member
  rcases member with (member | member) | member
  · exact isPrintable_of_fitsPlain named.fits c member
  · exact colon c member
  · rcases List.mem_flatMap.1 member with ⟨entry, among, member⟩
    exact isPrintable_entryText (keys entry among) c member

end Emit

/-! ## Characters as they are read -/

theorem isAllowed_of_isPrintable {c : Char} (printable : Emit.isPrintable c = true) :
    isAllowed c = true := by
  simp only [Emit.isPrintable, Bool.or_eq_true, Bool.and_eq_true, beq_iff_eq, decide_eq_true_eq,
    bne_iff_ne] at printable
  simp only [isAllowed, Bool.or_eq_true, Bool.and_eq_true, beq_iff_eq, decide_eq_true_eq]
  omega

theorem ne_of_isPrintable {c : Char} (other : Char) (printable : Emit.isPrintable c = true)
    (unprintable : Emit.isPrintable other = false) : c ≠ other := by
  rintro rfl
  exact absurd printable (by simp [unprintable])

/-- Printable characters are read as they are. -/
theorem normalised_of_isPrintable {text : List Char} (printable : Emit.IsPrintable text) :
    normalised text = text := by
  induction text with
  | nil => rfl
  | cons c text inductionHypothesis =>
    rw [Emit.isPrintable_cons] at printable
    have carriage := ne_of_isPrintable '\r' printable.1 (by decide)
    have line := ne_of_isPrintable nextLine printable.1 (by decide)
    have onward := inductionHypothesis printable.2
    rw [normalised]
    · simp [carriage, line, onward]
    · rintro rest rfl
      exact absurd rfl carriage

/-- No mark of the encoding stands in front. -/
theorem beginning_of_isPrintable {text : List Char} (printable : Emit.IsPrintable text) :
    withoutMark text = text ∧ Lexer.beginning text = Lexer.start text := by
  cases text with
  | nil => exact ⟨rfl, rfl⟩
  | cons c rest =>
    have unmarked := ne_of_isPrintable byteOrderMark (printable c List.mem_cons_self)
      (by decide)
    constructor
    · rw [withoutMark, if_neg (by simpa using unmarked)]
    · rw [Lexer.beginning, if_neg (by simpa using unmarked)]

/-- What is written of a document is read as its tokens. -/
theorem tokens_documentText {sections : List (String × List Emit.Field)} (some : sections ≠ [])
    (written : ∀ given ∈ sections, Emit.IsSection given) :
    tokens (Emit.documentText sections) = .ok (Emit.documentTokens sections) := by
  have printable := Emit.isPrintable_documentText written
  have allowed : (Emit.documentText sections).all isAllowed = true :=
    List.all_eq_true.2 fun c member => isAllowed_of_isPrintable (printable c member)
  rcases beginning_of_isPrintable printable with ⟨whole, start⟩
  rw [tokens, whole, allowed, if_pos rfl, normalised_of_isPrintable printable, start]
  exact Emit.gives_document some written _ le_rfl

end Steward.Yaml
